import Mathlib.Data.List.Basic

/-!
# Unix paths

A `PathBuf` as `Path::components` reads it on Unix: a root or a leading `.` first, then names and
`..`. `PathBuf::from`, `join` and `parent` are `std`'s, restated on components. `join` pastes the
text of a relative path after a separator, and `components` of the result are the base's followed
by the relative path's, less a leading `.` that no longer leads; an absolute path replaces the base.
`parent` drops the last component.

Where a path points is `Location`: `.` and `..` resolved lexically, without following links.
-/

namespace SecretOperator

/-- `std::path::Component` on Unix, which has no `Prefix`. -/
inductive Component where
  | rootDir
  | curDir
  | parentDir
  | normal (name : String)
  deriving DecidableEq, Repr

/-- A component `components` yields after the first: `..`, or a name, which is not empty, `.` or
`..` and holds no separator. -/
def Component.IsBody : Component → Prop
  | .parentDir => True
  | .normal name => name ≠ "" ∧ name ≠ "." ∧ name ≠ ".." ∧ '/' ∉ name.toList
  | .rootDir | .curDir => False

instance : DecidablePred Component.IsBody := fun c =>
  match c with
  | .parentDir => isTrue trivial
  | .normal name => inferInstanceAs (Decidable (name ≠ "" ∧ name ≠ "." ∧ name ≠ ".." ∧ _))
  | .rootDir | .curDir => isFalse id

/-- The component lists `Path::components` yields: a root, a `.` or a body first, bodies after. -/
def WellFormed : List Component → Prop
  | [] => True
  | c :: rest => (c = .rootDir ∨ c = .curDir ∨ c.IsBody) ∧ ∀ d ∈ rest, d.IsBody

instance : DecidablePred WellFormed := fun cs =>
  match cs with
  | [] => isTrue trivial
  | c :: rest => inferInstanceAs
      (Decidable ((c = .rootDir ∨ c = .curDir ∨ c.IsBody) ∧ ∀ d ∈ rest, d.IsBody))

theorem WellFormed.of_isBody {cs : List Component} (h : ∀ d ∈ cs, d.IsBody) : WellFormed cs := by
  cases cs with
  | nil => trivial
  | cons c rest => exact ⟨.inr (.inr (h c (.head _))), fun d hd => h d (.tail _ hd)⟩

theorem WellFormed.append {cs ds : List Component} (hcs : WellFormed cs) (hne : cs ≠ [])
    (hds : ∀ d ∈ ds, d.IsBody) : WellFormed (cs ++ ds) := by
  cases cs with
  | nil => exact absurd rfl hne
  | cons c rest =>
    refine ⟨hcs.1, fun d hd => ?_⟩
    rcases List.mem_append.1 hd with hd | hd
    exacts [hcs.2 d hd, hds d hd]

theorem WellFormed.dropLast {cs : List Component} (h : WellFormed cs) : WellFormed cs.dropLast := by
  match cs, h with
  | [], _ | [_], _ => trivial
  | c :: d :: rest, h => exact ⟨h.1, fun x hx => h.2 x (List.dropLast_subset _ hx)⟩

/-- A path, by its components. -/
structure PathBuf where
  components : List Component
  wellFormed : WellFormed components

/-- `Path::is_absolute` on Unix: the path has a root. -/
def PathBuf.isAbsolute (p : PathBuf) : Bool :=
  match p.components with
  | .rootDir :: _ => true
  | _ => false

/-- What `PathBuf::push` appends of a relative path: its components less a leading `.`. -/
def relativeTail : List Component → List Component
  | .curDir :: rest => rest
  | cs => cs

theorem PathBuf.relativeTail_isBody (p : PathBuf) (hrel : p.isAbsolute = false) :
    ∀ d ∈ relativeTail p.components, d.IsBody := by
  obtain ⟨_ | ⟨c, rest⟩, hwf⟩ := p
  · nofun
  · cases c with
    | rootDir => cases hrel
    | curDir => exact hwf.2
    | parentDir | normal _ =>
      rintro d (_ | ⟨_, hd⟩)
      exacts [(hwf.1.resolve_left nofun).resolve_left nofun, hwf.2 d hd]

/-- `Path::join`: an absolute `path` replaces `self`, and otherwise follows it. -/
def PathBuf.join (self path : PathBuf) : PathBuf :=
  if habs : path.isAbsolute then path
  else if hself : self.components = [] then path
  else ⟨self.components ++ relativeTail path.components,
    self.wellFormed.append hself (path.relativeTail_isBody (by simpa using habs))⟩

/-- `Path::parent`: the path less its last component, unless that is the root or there is none. -/
def PathBuf.parent (p : PathBuf) : Option PathBuf :=
  match p.components.getLast? with
  | none | some .rootDir => none
  | some _ => some ⟨p.components.dropLast, p.wellFormed.dropLast⟩

/-- The text of a component. -/
def Component.text : Component → String
  | .rootDir => ""
  | .curDir => "."
  | .parentDir => ".."
  | .normal name => name

/-- `Path::display`, from the components. -/
def PathBuf.display (p : PathBuf) : String :=
  match p.components with
  | .rootDir :: rest => "/" ++ "/".intercalate (rest.map Component.text)
  | cs => "/".intercalate (cs.map Component.text)

/-! ### `PathBuf::from` -/

/-- The pieces of a path's text between separators. -/
def splitSlash : List Char → List (List Char)
  | [] => [[]]
  | c :: cs =>
    if c = '/' then [] :: splitSlash cs
    else match splitSlash cs with
      | [] => [[c]]
      | piece :: pieces => (c :: piece) :: pieces

theorem not_mem_of_mem_splitSlash {cs piece : List Char} (h : piece ∈ splitSlash cs) :
    '/' ∉ piece := by
  induction cs generalizing piece with
  | nil => simp_all [splitSlash]
  | cons c cs ih =>
    simp only [splitSlash] at h
    split_ifs at h with hc
    · rcases List.mem_cons.1 h with rfl | h
      exacts [List.not_mem_nil _, ih h]
    · split at h
      · simp only [List.mem_singleton] at h
        simpa [h, eq_comm] using hc
      · rename_i piece' pieces hsplit
        rcases List.mem_cons.1 h with rfl | h
        · simpa [Ne.symm hc] using ih (hsplit ▸ List.mem_cons_self piece' pieces)
        · exact ih (hsplit ▸ List.mem_cons_of_mem piece' h)

/-- The component a piece stands for: empty pieces and `.` stand for none. -/
def pieceComponent (piece : List Char) : Option Component :=
  if piece = [] ∨ piece = ['.'] then none
  else if piece = ['.', '.'] then some .parentDir
  else some (.normal ⟨piece⟩)

theorem isBody_of_pieceComponent {piece : List Char} {c : Component} (hpiece : '/' ∉ piece)
    (h : pieceComponent piece = some c) : c.IsBody := by
  unfold pieceComponent at h
  split_ifs at h with h₁ h₂ <;> cases h
  · trivial
  · push_neg at h₁
    exact ⟨fun he => h₁.1 (congrArg String.data he), fun he => h₁.2 (congrArg String.data he),
      fun he => h₂ (congrArg String.data he), hpiece⟩

/-- `Path::components` of a path's text. -/
def componentsOf (chars : List Char) : List Component :=
  let body := (splitSlash chars).filterMap pieceComponent
  match chars with
  | '/' :: _ => .rootDir :: body
  | ['.'] | '.' :: '/' :: _ => .curDir :: body
  | _ => body

theorem componentsOf_wellFormed (chars : List Char) : WellFormed (componentsOf chars) := by
  have hbody : ∀ d ∈ (splitSlash chars).filterMap pieceComponent, d.IsBody := by
    intro d hd
    obtain ⟨piece, hpiece, hd⟩ := List.mem_filterMap.1 hd
    exact isBody_of_pieceComponent (not_mem_of_mem_splitSlash hpiece) hd
  unfold componentsOf
  split
  · exact ⟨.inl rfl, hbody⟩
  · exact ⟨.inr (.inl rfl), hbody⟩
  · exact ⟨.inr (.inl rfl), hbody⟩
  · exact .of_isBody hbody

/-- `PathBuf::from(String)`. -/
def PathBuf.ofString (text : String) : PathBuf :=
  ⟨componentsOf text.toList, componentsOf_wellFormed _⟩

/-! ### Where a path points -/

/-- A path with `.` and `..` resolved: from the root or from the working directory, how many levels
up the working directory it starts (a relative path only), and the names below, innermost first. -/
structure Location where
  absolute : Bool
  up : Nat
  names : List String
  deriving DecidableEq, Repr

/-- Resolve one more component. `..` at the root stays at the root. -/
def Location.push (l : Location) : Component → Location
  | .rootDir => ⟨true, 0, []⟩
  | .curDir => l
  | .parentDir =>
    match l.names with
    | _ :: names => { l with names }
    | [] => if l.absolute then l else { l with up := l.up + 1 }
  | .normal name => { l with names := name :: l.names }

/-- Where a path points. -/
def PathBuf.location (p : PathBuf) : Location :=
  p.components.foldl Location.push ⟨false, 0, []⟩

/-- `inner` is `outer` or lies below it. -/
def Location.Within (inner outer : Location) : Prop :=
  inner.absolute = outer.absolute ∧ inner.up = outer.up ∧ outer.names <:+ inner.names

/-- `inner` lies below `outer`, by at least one name. -/
def Location.StrictlyWithin (inner outer : Location) : Prop :=
  inner.Within outer ∧ outer.names.length < inner.names.length

instance (inner outer : Location) : Decidable (inner.Within outer) :=
  inferInstanceAs (Decidable (_ ∧ _ ∧ _))

instance (inner outer : Location) : Decidable (inner.StrictlyWithin outer) :=
  inferInstanceAs (Decidable (_ ∧ _))

/-- The names among some components. -/
def namesOf (cs : List Component) : List String :=
  cs.filterMap fun | .normal name => some name | _ => none

/-- A component that moves no higher: `.` or a name. -/
def Component.Descends : Component → Prop
  | .curDir | .normal _ => True
  | .rootDir | .parentDir => False

/-- Resolving `.` and names only goes down, by the names. -/
theorem Location.foldl_push_of_descends (l : Location) {ds : List Component}
    (hds : ∀ d ∈ ds, d.Descends) :
    ds.foldl Location.push l = { l with names := (namesOf ds).reverse ++ l.names } := by
  induction ds generalizing l with
  | nil => rfl
  | cons d ds ih =>
    have hds' : ∀ d ∈ ds, d.Descends := fun d hd => hds d (.tail _ hd)
    cases d with
    | curDir => simpa [namesOf, Location.push] using ih l hds'
    | normal name => simpa [namesOf, Location.push] using ih (l.push (.normal name)) hds'
    | rootDir | parentDir => exact (hds _ (.head _)).elim

/-- A key that `join` keeps below the directory it is joined to: relative, with no `..`, and with a
name. -/
def PathBuf.Tame (k : PathBuf) : Prop :=
  k.isAbsolute = false ∧ .parentDir ∉ k.components ∧ ∃ name, .normal name ∈ k.components

/-- A tame key's components only descend, and its last is a name. -/
theorem PathBuf.Tame.descends {k : PathBuf} (hk : k.Tame) :
    (∀ d ∈ k.components, d.Descends) ∧ ∃ name, k.components.getLast? = some (.normal name) := by
  obtain ⟨habs, hpar, name, hname⟩ := hk
  obtain ⟨_ | ⟨c, rest⟩, hwf⟩ := k
  · exact absurd hname (List.not_mem_nil _)
  have hrest : ∀ d ∈ rest, ∃ n, d = .normal n := by
    intro d hd
    have hbody := hwf.2 d hd
    cases d with
    | parentDir => exact absurd (.tail _ hd) hpar
    | normal n => exact ⟨n, rfl⟩
    | rootDir | curDir => exact hbody.elim
  have hc : c.Descends := by
    cases c with
    | rootDir => cases habs
    | parentDir => exact absurd (.head _) hpar
    | curDir | normal _ => trivial
  refine ⟨?_, ?_⟩
  · rintro d (_ | ⟨_, hd⟩)
    · exact hc
    · obtain ⟨n, rfl⟩ := hrest d hd
      trivial
  · cases rest with
    | nil =>
      obtain rfl : c = .normal name := by simpa [eq_comm] using hname
      exact ⟨name, rfl⟩
    | cons d ds =>
      obtain ⟨n, hn⟩ := hrest _ (List.getLast_mem (List.cons_ne_nil d ds))
      exact ⟨n, by rw [List.getLast?_cons_cons, List.getLast?_eq_getLast _ (List.cons_ne_nil _ _), hn]⟩

/-- Dropping a leading `.` keeps the last component, when that is a name. -/
theorem getLast?_relativeTail {cs : List Component} {name : String}
    (h : cs.getLast? = some (.normal name)) : (relativeTail cs).getLast? = some (.normal name) := by
  match cs, h with
  | .curDir :: [], h => cases h
  | .curDir :: d :: rest, h => simpa [relativeTail] using h
  | .rootDir :: rest, h | .parentDir :: rest, h | .normal _ :: rest, h => exact h

/-- Joined to `t`, a tame key adds below `t` only names and `.`, ending in a name. -/
theorem PathBuf.join_of_tame (t : PathBuf) {k : PathBuf} (hk : k.Tame) :
    ∃ rest, (t.join k).components = t.components ++ rest ∧ (∀ d ∈ rest, d.Descends) ∧
      ∃ name, rest.getLast? = some (.normal name) := by
  obtain ⟨hdesc, name, hlast⟩ := hk.descends
  unfold PathBuf.join
  rw [dif_neg (by simp [hk.1])]
  split_ifs with ht
  · exact ⟨k.components, by simp [ht], hdesc, name, hlast⟩
  · refine ⟨relativeTail k.components, rfl, fun d hd => hdesc d ?_, name, getLast?_relativeTail hlast⟩
    revert hd
    match k.components with
    | .curDir :: rest => exact List.mem_cons_of_mem _
    | .rootDir :: _ | .parentDir :: _ | .normal _ :: _ | [] => exact id

theorem Location.within_below (l : Location) (below : List String) :
    ({ l with names := below ++ l.names } : Location).Within l :=
  ⟨rfl, rfl, List.suffix_append _ _⟩

/-- **A tame key stays inside.** Joined to any `t`, a tame key points strictly below `t`, and its
parent is `t` itself or below it. -/
theorem PathBuf.location_join_of_tame (t : PathBuf) {k : PathBuf} (hk : k.Tame) :
    (t.join k).location.StrictlyWithin t.location ∧
      ∃ p, (t.join k).parent = some p ∧ p.location.Within t.location := by
  obtain ⟨rest, hcomp, hdesc, name, hlast⟩ := t.join_of_tame hk
  have hne : rest ≠ [] := by rintro rfl; cases hlast
  have hname : name ∈ namesOf rest :=
    List.mem_filterMap.2 ⟨_, List.mem_of_getLast?_eq_some hlast, rfl⟩
  have hloc : (t.join k).location =
      { t.location with names := (namesOf rest).reverse ++ t.location.names } := by
    rw [PathBuf.location, hcomp, List.foldl_append, Location.foldl_push_of_descends _ hdesc]
    rfl
  refine ⟨⟨hloc ▸ Location.within_below _ _, ?_⟩,
    ⟨(t.join k).components.dropLast, (t.join k).wellFormed.dropLast⟩, ?_, ?_⟩
  · simpa [hloc] using List.length_pos_of_mem hname
  · simp [PathBuf.parent, hcomp, hlast]
  · show (List.foldl Location.push ⟨false, 0, []⟩ (t.join k).components.dropLast).Within
      t.location
    rw [hcomp, List.dropLast_append_of_ne_nil _ hne, List.foldl_append,
      Location.foldl_push_of_descends _ fun d hd => hdesc d (List.dropLast_subset _ hd)]
    exact Location.within_below _ _

end SecretOperator
