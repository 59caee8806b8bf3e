import Mathlib

/-! Actor paths as lists of tokens. -/

namespace Rush.Actor

structure ActorPath where
  tokens : List String
  deriving DecidableEq, Repr

namespace ActorPath

/-- The characters `str::trim` removes: Unicode `White_Space`. -/
def isWhiteSpace (char : Char) : Bool :=
  (9 ≤ char.toNat && char.toNat ≤ 13) || char.toNat = 0x20 || char.toNat = 0x85 ||
    char.toNat = 0xA0 || char.toNat = 0x1680 || (0x2000 ≤ char.toNat && char.toNat ≤ 0x200A) ||
    char.toNat = 0x2028 || char.toNat = 0x2029 || char.toNat = 0x202F || char.toNat = 0x205F ||
    char.toNat = 0x3000

/-- The parts of a text between slashes, without the blank ones. -/
def segments (text : String) : List String :=
  ((text.toList.splitOn '/').filter fun segment => !segment.all isWhiteSpace).map String.ofList

def ofText (text : String) : ActorPath := ⟨segments text⟩

def div (path : ActorPath) (name : String) : ActorPath := ⟨path.tokens ++ segments name⟩

instance : HDiv ActorPath String ActorPath := ⟨div⟩

def parent (path : ActorPath) : ActorPath :=
  if 1 < path.tokens.length then ⟨path.tokens.take (path.tokens.length - 1)⟩ else ⟨[]⟩

def root (path : ActorPath) : ActorPath :=
  if path.tokens.length = 1 then path
  else if path.tokens ≠ [] then ⟨path.tokens.take 1⟩ else ⟨[]⟩

def key (path : ActorPath) : String := path.tokens.getLast?.getD ""

def level (path : ActorPath) : Nat := path.tokens.length

def atLevel (path : ActorPath) (level : Nat) : ActorPath :=
  if level < 1 ∨ level ≥ path.level then path
  else if level = path.level - 1 then path.parent
  else ⟨path.tokens.take level⟩

def display (path : ActorPath) : String :=
  match path.tokens with
  | [] => "/"
  | tokens => "/" ++ "/".intercalate tokens

instance : ToString ActorPath := ⟨display⟩

def isAncestorOf (path other : ActorPath) : Bool :=
  s!"{path}/".toList.isPrefixOf other.display.toList

def isDescendantOf (path other : ActorPath) : Bool :=
  s!"{other}/".toList.isPrefixOf path.display.toList

def isParentOf (path other : ActorPath) : Bool := path = other.parent

def isChildOf (path other : ActorPath) : Bool := path.parent = other

end ActorPath

end Rush.Actor
