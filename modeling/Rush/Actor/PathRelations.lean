import Rush.Library.Segments
import Rush.Actor.System

/-! What the text of a path says about its tokens. A path is rendered and parsed back,
compared by text or by tokens, and joined in one step or in several. -/

namespace Rush.Actor

open Rush.Library

namespace ActorPath

def Proper (token : String) : Prop :=
  '/' ∉ token.toList ∧ token.toList.all isWhiteSpace = false

/-- The paths that the methods of `ActorPath` build. -/
inductive Built : ActorPath → Prop
  | ofText (text : String) : Built (.ofText text)
  | div {path : ActorPath} (built : Built path) (name : String) : Built (path / name)
  | parent {path : ActorPath} (built : Built path) : Built path.parent
  | root {path : ActorPath} (built : Built path) : Built path.root
  | atLevel {path : ActorPath} (built : Built path) (level : Nat) : Built (path.atLevel level)

theorem segments_proper {text token : String} (member : token ∈ segments text) : Proper token := by
  obtain ⟨segment, kept, rfl⟩ := List.mem_map.mp member
  obtain ⟨split, solid⟩ := List.mem_filter.mp kept
  rw [Proper, String.toList_ofList]
  exact ⟨Segments.splitOn_apart split, by simpa using solid⟩

theorem segments_of_mem {name segment : String} (member : segment ∈ segments name) :
    segments segment = [segment] := by
  obtain ⟨text, kept, rfl⟩ := List.mem_map.mp member
  obtain ⟨split, solid⟩ := List.mem_filter.mp kept
  have single : text.splitOn '/' = [text] :=
    List.splitOn_eq_singleton (Segments.splitOn_apart split)
  rw [segments, String.toList_ofList, single, List.filter_cons, if_pos solid]
  rfl

theorem parent_tokens (path : ActorPath) : path.parent.tokens = path.tokens.dropLast := by
  rw [parent]
  split
  case isTrue => exact List.dropLast_eq_take.symm
  case isFalse short =>
    match path.tokens, short with
    | [], _ => rfl
    | [_], _ => rfl
    | _ :: _ :: _, short => exact absurd (by simp) short

theorem root_tokens (path : ActorPath) : path.root.tokens = path.tokens.take 1 := by
  rw [root]
  split
  case isTrue single => exact (List.take_of_length_le single.le).symm
  case isFalse =>
    split
    case isTrue => rfl
    case isFalse empty =>
      rw [not_not.mp empty]
      rfl

theorem atLevel_tokens (path : ActorPath) (level : Nat) :
    (path.atLevel level).tokens = if level < 1 then path.tokens else path.tokens.take level := by
  rw [atLevel]
  by_cases low : level < 1
  · rw [if_pos (.inl low), if_pos low]
  · rw [if_neg low]
    by_cases high : level ≥ path.level
    · rw [if_pos (.inr high)]
      exact (List.take_of_length_le high).symm
    · rw [if_neg (not_or.mpr ⟨low, high⟩)]
      split
      case isTrue last => rw [parent_tokens, last, ActorPath.level, List.dropLast_eq_take]
      case isFalse => rfl

theorem built_proper {path : ActorPath} (built : Built path) :
    ∀ token ∈ path.tokens, Proper token := by
  induction built with
  | ofText text => exact fun token member => segments_proper member
  | div built name ih =>
      intro token member
      rcases List.mem_append.mp member with old | new
      · exact ih token old
      · exact segments_proper new
  | parent built ih =>
      rw [parent_tokens]
      exact fun token member => ih token (List.mem_of_mem_dropLast member)
  | root built ih =>
      rw [root_tokens]
      exact fun token member => ih token (List.mem_of_mem_take member)
  | atLevel built level ih =>
      rw [atLevel_tokens]
      intro token member
      split at member
      · exact ih token member
      · exact ih token (List.mem_of_mem_take member)

def texts (path : ActorPath) : List (List Char) := path.tokens.map String.toList

theorem texts_apart {path : ActorPath} (built : Built path) :
    ∀ text ∈ path.texts, '/' ∉ text := by
  intro text member
  obtain ⟨token, inside, rfl⟩ := List.mem_map.mp member
  exact (built_proper built token inside).1

theorem texts_prefix_iff (path other : ActorPath) :
    path.texts <+: other.texts ↔ path.tokens <+: other.tokens :=
  List.prefix_map_iff_of_injective fun _ _ same => String.toList_inj.mp same

theorem texts_inj {path other : ActorPath} : path.texts = other.texts ↔ path = other := by
  rw [texts, texts, List.map_inj_right fun _ _ same => String.toList_inj.mp same]
  cases path
  cases other
  rw [ActorPath.mk.injEq]

theorem display_toList (path : ActorPath) :
    path.display.toList = if path.tokens = [] then ['/'] else Segments.joined '/' path.texts := by
  rw [display]
  cases shape : path.tokens with
  | nil => simp
  | cons token tokens =>
      rw [if_neg (List.cons_ne_nil _ _), texts, shape, List.map_cons, Segments.joined_eq_intercalate]
      simp

theorem segments_joined {path : ActorPath} (proper : ∀ token ∈ path.tokens, Proper token) :
    (Segments.joined '/' path.texts).splitOn '/' = [] :: path.texts ∧
      path.texts.filter (fun segment => !segment.all isWhiteSpace) = path.texts := by
  have each (text : List Char) (member : text ∈ path.texts) :
      '/' ∉ text ∧ text.all isWhiteSpace = false := by
    obtain ⟨token, inside, rfl⟩ := List.mem_map.mp member
    exact proper token inside
  constructor
  · exact Segments.splitOn_joined fun text member => (each text member).1
  · exact List.filter_eq_self.mpr fun text member => by simpa using (each text member).2

theorem ofText_display {path : ActorPath} (built : Built path) : ofText path.display = path := by
  obtain ⟨split, solid⟩ := segments_joined (built_proper built)
  have tokens : segments path.display = path.tokens := by
    rw [segments, display_toList]
    by_cases empty : path.tokens = []
    · rw [if_pos empty, empty]
      decide
    · rw [if_neg empty, split, List.filter_cons, if_neg (by simp), solid, texts, List.map_map]
      simp [Function.comp_def]
  exact congrArg ActorPath.mk tokens

/-- Paths are read back from their texts, and the text of a path is a normal form of all
the strings that are parsed to it. -/
theorem display_normal_form :
    (∀ path, Built path → ofText path.display = path) ∧
    (∀ text, (ofText (ofText text).display).display = (ofText text).display) ∧
    ∀ first second : String,
      (ofText first).display = (ofText second).display ↔ ofText first = ofText second := by
  refine ⟨fun path built => ofText_display built, ?_, ?_⟩
  · intro text
    rw [ofText_display (.ofText text)]
  · intro first second
    constructor
    · intro same
      rw [← ofText_display (.ofText first), same, ofText_display (.ofText second)]
    · exact congrArg display

theorem padded_text_normal_form :
    (ofText "//acme/ / hall /" / "room/").display = "/acme/ hall /room" ∧
      ofText (ofText "//acme/ / hall /" / "room/").display = ofText "//acme/ / hall /" / "room/" :=
  ⟨by decide, display_normal_form.1 _ (.div (.ofText _) _)⟩

theorem segments_join (front back : String) :
    segments (front ++ "/" ++ back) = segments front ++ segments back := by
  have text : (front ++ "/" ++ back).toList = front.toList ++ '/' :: back.toList := by simp
  rw [segments, text, List.splitOn_append_cons_self, List.filter_append, List.map_append]
  rfl

theorem div_div (path : ActorPath) (first second : String) :
    path / first / second = path / (first ++ "/" ++ second) := by
  have tokens : path.tokens ++ segments first ++ segments second =
      path.tokens ++ segments (first ++ "/" ++ second) := by
    rw [segments_join, List.append_assoc]
  exact congrArg ActorPath.mk tokens

/-- The four relations between two paths are those of the prefix order. -/
structure Relations (path other : ActorPath) : Prop where
  ancestor : path.isAncestorOf other ↔ path.tokens <+: other.tokens ∧ path ≠ other
  descendant : other.isDescendantOf path ↔ path.tokens <+: other.tokens ∧ path ≠ other
  parent : path.isParentOf other ↔ ∃ token, other.tokens = path.tokens ++ [token]
  child : other.isChildOf path ↔ ∃ token, other.tokens = path.tokens ++ [token]
  nested : path.isParentOf other → path.isAncestorOf other
  irreflexive : ¬ path.isParentOf path ∧ ¬ path.isAncestorOf path

section Relations

variable {path other : ActorPath}

theorem isAncestorOf_iff (built : Built path) (builtOther : Built other)
    (nonempty : path.tokens ≠ []) :
    path.isAncestorOf other ↔ path.tokens <+: other.tokens ∧ path ≠ other := by
  have text : s!"{path}/".toList = Segments.joined '/' path.texts ++ ['/'] := by
    have slash : s!"{path}/".toList = path.display.toList ++ ['/'] := by simp [toString]
    rw [slash, display_toList, if_neg nonempty]
  have order := Segments.joined_prefix_iff (texts_apart built) (texts_apart builtOther)
  rw [texts_prefix_iff, ne_eq, texts_inj] at order
  rw [isAncestorOf, List.isPrefixOf_iff_prefix, text, display_toList]
  by_cases empty : other.tokens = []
  · rw [if_pos empty, empty]
    constructor
    · intro starts
      obtain ⟨token, tokens, shape⟩ := List.exists_cons_of_ne_nil nonempty
      have length := starts.length_le
      rw [texts, shape, List.map_cons, Segments.joined_cons] at length
      simp at length
    · rintro ⟨starts, _⟩
      exact absurd (List.prefix_nil.mp starts) nonempty
  · rw [if_neg empty, order]

theorem isParentOf_iff (nonempty : path.tokens ≠ []) :
    path.isParentOf other ↔ ∃ token, other.tokens = path.tokens ++ [token] := by
  rw [isParentOf, decide_eq_true_iff]
  constructor
  · intro above
    have tokens : path.tokens = other.tokens.dropLast := by rw [above, parent_tokens]
    have some : other.tokens ≠ [] := by
      intro none
      rw [none] at tokens
      exact nonempty tokens
    exact ⟨other.tokens.getLast some, by rw [tokens, List.dropLast_append_getLast]⟩
  · rintro ⟨token, longer⟩
    have tokens : path.tokens = other.parent.tokens := by
      rw [parent_tokens, longer, List.dropLast_concat]
    exact congrArg ActorPath.mk tokens

/-- The relations are those of the prefix order exactly for the paths that are not empty. -/
theorem relations_iff (built : Built path) (builtOther : Built other) :
    Relations path other ↔ path.tokens ≠ [] := by
  constructor
  · intro relations empty
    have own : path = path.parent := by
      have tokens : path.tokens = path.parent.tokens := by
        rw [parent_tokens, empty]
        rfl
      exact congrArg ActorPath.mk tokens
    exact relations.irreflexive.1 (decide_eq_true own)
  · intro nonempty
    have ancestor := isAncestorOf_iff built builtOther nonempty
    have parent := @isParentOf_iff path other nonempty
    constructor
    case ancestor => exact ancestor
    case descendant => exact ancestor
    case parent => exact parent
    case child =>
      rw [← parent, isChildOf, isParentOf, decide_eq_true_iff, decide_eq_true_iff, eq_comm]
    case nested =>
      intro above
      obtain ⟨token, longer⟩ := parent.mp above
      refine ancestor.mpr ⟨⟨[token], longer.symm⟩, ?_⟩
      rintro rfl
      simp at longer
    case irreflexive =>
      constructor
      · intro own
        obtain ⟨token, longer⟩ := (isParentOf_iff nonempty).mp own
        simp at longer
      · intro own
        exact ((isAncestorOf_iff built built nonempty).mp own).2 rfl

theorem acme_relations : Relations (ofText "/acme") (ofText "/acmes/hall") :=
  (relations_iff (.ofText "/acme") (.ofText "/acmes/hall")).mpr (by decide)

/-- The empty path is the parent of a top-level path and not its ancestor. -/
theorem empty_path_no_ancestor :
    ¬ ∀ path other : ActorPath, Built path → Built other → Relations path other := by
  intro claimed
  have nested := (claimed _ _ (.parent (.ofText "/acme")) (.ofText "/acme")).nested
  exact absurd (nested (by decide)) (by decide)

end Relations

end ActorPath

/-- `SupervicionHandler::get_actor`. The registered reference is of the type asked for or
not. -/
def World.getActor (world : World) (isOfType : ActorId → Bool) (path : ActorPath) :
    Except Error (Option ActorId) :=
  match (world.registry.lookup path).filter isOfType with
  | some id => .ok (some id)
  | none => .error (.supervision s!"Actor '{path}' not found.")

def World.systemActor (world : World) (isOfType : ActorId → Bool) (name : String) :
    Except Error (Option ActorId) := world.getActor isOfType (rootPath / name)

/-- `ActorContext::get_child` of the actor with this path. -/
def World.getChild (world : World) (isOfType : ActorId → Bool) (path : ActorPath) (name : String) :
    Option ActorId := (world.getActor isOfType (path / name)).toOption.getD none

/-- Joining is a homomorphism: a joined name leads where its parts lead one after the
other, so both find the same actor. -/
theorem join_homomorphism :
    (∀ first second : String,
      ActorPath.ofText first / second = ActorPath.ofText (first ++ "/" ++ second)) ∧
    (∀ (path : ActorPath) (first second : String),
      path / first / second = path / (first ++ "/" ++ second)) ∧
    ∀ (world : World) (isOfType : ActorId → Bool) (first second : String),
      (world.systemActor isOfType (first ++ "/" ++ second)).toOption.getD none =
          world.getChild isOfType (rootPath / first) second ∧
        ∀ path : ActorPath, world.getChild isOfType path (first ++ "/" ++ second) =
          world.getChild isOfType (path / first) second := by
  refine ⟨?_, fun path first second => ActorPath.div_div path first second, ?_⟩
  · intro first second
    exact congrArg ActorPath.mk (ActorPath.segments_join first second).symm
  · intro world isOfType first second
    constructor
    · rw [World.systemActor, World.getChild, ActorPath.div_div]
    · intro path
      rw [World.getChild, World.getChild, ActorPath.div_div]

end Rush.Actor
