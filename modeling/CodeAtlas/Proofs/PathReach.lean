import CodeAtlas.Proofs.SplitLaws
import CodeAtlas.Tree
import Mathlib.Data.List.Infix

/-! Where a path leads. By its text alone a path leads to a list of names; in a tree it leads to
what stands at these names, if it leads anywhere. A path that is taken from a folder stays in the
folder exactly when none of its beginnings goes up more often than down. -/
namespace CodeAtlas

namespace Path

/-- The place that a part of a path leads to. Places are given by their names, nearest first. -/
def enter (place : List Text) (part : Text) : List Text :=
  if part == "" || part == "." then place
  else if part == ".." then place.tail
  else part :: place

/-- The names from the top that a path leads to by its text alone. -/
def resolve (path : Text) : List Text := ((Text.split '/' path).foldl enter []).reverse

/-- A path taken from a folder. One that starts with a slash is already full. -/
def join (folder path : Text) : Text :=
  if Text.startsWith "/" path then path else folder ++ "/" ++ path

/-- The path leads to the folder or to something below it. -/
def LiesIn (folder path : Text) : Prop := resolve folder <+: resolve path

instance (folder path : Text) : Decidable (LiesIn folder path) :=
  inferInstanceAs (Decidable (_ <+: _))

/-- A part that goes up. -/
def isUp (part : Text) : Bool := part == ".."

/-- A part that goes down. -/
def isName (part : Text) : Bool := !(part == "" || part == "." || part == "..")

/-- From a place `n` names deep, no beginning of the parts goes up beyond the start. -/
def KeepsLevel (n : Nat) (parts : List Text) : Prop :=
  ∀ start ∈ parts.inits, start.countP isUp ≤ n + start.countP isName

instance (n : Nat) (parts : List Text) : Decidable (KeepsLevel n parts) :=
  inferInstanceAs (Decidable (∀ _ ∈ _, _))

/-- The path does not start at the top, and no beginning of it goes up more often than down. -/
def IsTame (path : Text) : Prop :=
  Text.startsWith "/" path = false ∧ KeepsLevel 0 (Text.split '/' path)

instance (path : Text) : Decidable (IsTame path) := inferInstanceAs (Decidable (_ ∧ _))

/-- A part stays, goes up or goes down. -/
inductive Move (part : Text) : Prop where
  | stay (hup : isUp part = false) (hname : isName part = false)
      (henter : ∀ place, enter place part = place)
  | up (hup : isUp part = true) (hname : isName part = false)
      (henter : ∀ place, enter place part = place.tail)
  | down (hup : isUp part = false) (hname : isName part = true)
      (henter : ∀ place, enter place part = part :: place)

theorem move (part : Text) : Move part := by
  by_cases hstay : (part == "" || part == ".") = true
  · refine .stay ?_ (by simp [isName, hstay]) fun place => by simp [enter, hstay]
    rw [Bool.or_eq_true, beq_iff_eq, beq_iff_eq] at hstay
    rcases hstay with rfl | rfl <;> decide
  · rw [Bool.not_eq_true] at hstay
    by_cases hup : (part == "..") = true
    · exact .up hup (by simp [isName, hup]) fun place => by simp [enter, hstay, hup]
    · rw [Bool.not_eq_true] at hup
      exact .down hup (by simp [isName, hstay, hup]) fun place => by simp [enter, hstay, hup]

section
variable {n : Nat} {part : Text} {parts : List Text}

theorem keepsLevel_nil : KeepsLevel n [] := by simp [KeepsLevel]

theorem keepsLevel_cons : KeepsLevel n (part :: parts) ↔ ∀ start ∈ parts.inits,
    (part :: start).countP isUp ≤ n + (part :: start).countP isName := by
  simp [KeepsLevel]

theorem keepsLevel_stay (hup : isUp part = false) (hname : isName part = false) :
    KeepsLevel n (part :: parts) ↔ KeepsLevel n parts := by
  rw [keepsLevel_cons]
  simp [KeepsLevel, hup, hname]

theorem keepsLevel_down (hup : isUp part = false) (hname : isName part = true) :
    KeepsLevel n (part :: parts) ↔ KeepsLevel (n + 1) parts := by
  rw [keepsLevel_cons]
  simp only [KeepsLevel, List.countP_cons, hup, hname]
  refine forall₂_congr fun start _ => ?_
  simp
  omega

theorem keepsLevel_up (hup : isUp part = true) (hname : isName part = false) :
    KeepsLevel n (part :: parts) ↔ 0 < n ∧ KeepsLevel (n - 1) parts := by
  rw [keepsLevel_cons]
  simp only [KeepsLevel, List.countP_cons, hup, hname]
  constructor
  · intro h
    have hn := h [] (by simp)
    simp at hn
    refine ⟨hn, fun start hstart => ?_⟩
    have := h start hstart
    simp at this
    omega
  · rintro ⟨hn, h⟩ start hstart
    have := h start hstart
    simp
    omega

end

/-- What keeps its level stays below the place where it began. -/
theorem suffix_of_keepsLevel {home : List Text} (extra : List Text) {parts : List Text}
    (h : KeepsLevel extra.length parts) : home <:+ parts.foldl enter (extra ++ home) := by
  induction parts generalizing extra with
  | nil => exact List.suffix_append extra home
  | cons part parts ih =>
    rw [List.foldl_cons]
    cases move part with
    | stay hup hname henter =>
      rw [henter]
      exact ih extra ((keepsLevel_stay hup hname).mp h)
    | up hup hname henter =>
      obtain ⟨hpos, h⟩ := (keepsLevel_up hup hname).mp h
      cases extra with
      | nil => simp at hpos
      | cons name extra =>
        rw [henter]
        exact ih extra h
    | down hup hname henter =>
      rw [henter]
      exact ih (part :: extra) ((keepsLevel_down hup hname).mp h)

section
variable {last : Text} {above place parts : List Text}

/-- A place that was left is reached again only by its own name. -/
theorem not_suffix_foldl (hlast : last ∉ parts) (h : ¬ last :: above <:+ place) :
    ¬ last :: above <:+ parts.foldl enter place := by
  induction parts generalizing place with
  | nil => exact h
  | cons part parts ih =>
    have hrest : last ∉ parts := fun hmem => hlast (List.mem_cons_of_mem part hmem)
    apply ih hrest
    cases move part with
    | stay _ _ henter => rwa [henter]
    | up _ _ henter =>
      rw [henter]
      intro hsuffix
      exact h (hsuffix.trans (List.tail_suffix place))
    | down _ _ henter =>
      rw [henter, List.suffix_cons_iff]
      rintro (heq | hsuffix)
      · exact hlast (by simp [(List.cons.inj heq).1])
      · exact h hsuffix

theorem suffix_foldl_iff (hlast : last ∉ parts) (extra : List Text) :
    last :: above <:+ parts.foldl enter (extra ++ last :: above) ↔
      KeepsLevel extra.length parts := by
  refine ⟨fun h => ?_, suffix_of_keepsLevel extra⟩
  induction parts generalizing extra with
  | nil => exact keepsLevel_nil
  | cons part parts ih =>
    have hrest : last ∉ parts := fun hmem => hlast (List.mem_cons_of_mem part hmem)
    rw [List.foldl_cons] at h
    cases move part with
    | stay hup hname henter =>
      rw [henter] at h
      exact (keepsLevel_stay hup hname).mpr (ih hrest extra h)
    | up hup hname henter =>
      rw [henter] at h
      rw [keepsLevel_up hup hname]
      cases extra with
      | nil =>
        have hleft : ¬ last :: above <:+ above := fun hsuffix =>
          Nat.not_succ_le_self _ hsuffix.length_le
        exact absurd h (not_suffix_foldl hrest hleft)
      | cons name extra => exact ⟨by simp, ih hrest extra h⟩
    | down hup hname henter =>
      rw [henter] at h
      exact (keepsLevel_down hup hname).mpr (ih hrest (part :: extra) h)

end

theorem resolve_join {folder path : Text} (h : Text.startsWith "/" path = false) :
    resolve (join folder path) =
      ((Text.split '/' path).foldl enter (resolve folder).reverse).reverse := by
  have hjoin : join folder path = folder ++ CodePoint.ofChar '/' :: path := by
    rw [join, h]
    exact List.append_cons folder _ path |>.symm
  rw [hjoin, resolve, Text.split_append, List.foldl_append, resolve, List.reverse_reverse]

theorem mem_resolve {name path : Text} (h : name ∈ resolve path) : name ∈ Text.split '/' path := by
  have hplace : ∀ (parts place : List Text), name ∈ parts.foldl enter place →
      name ∈ place ∨ name ∈ parts := by
    intro parts
    induction parts with
    | nil => exact fun place h => .inl h
    | cons part parts ih =>
      intro place h
      rcases ih _ h with h | h
      · cases move part with
        | stay _ _ henter =>
          rw [henter] at h
          exact .inl h
        | up _ _ henter =>
          rw [henter] at h
          exact .inl (List.mem_of_mem_tail h)
        | down _ _ henter =>
          rw [henter] at h
          rcases List.mem_cons.mp h with rfl | h
          · exact .inr List.mem_cons_self
          · exact .inl h
      · exact .inr (List.mem_cons_of_mem part h)
  simpa using hplace _ _ (List.mem_reverse.mp h)

/-- A tame path stays in the folder from which it is taken. -/
theorem liesIn_of_isTame (folder : Text) {path : Text} (h : IsTame path) :
    LiesIn folder (join folder path) := by
  unfold LiesIn
  rw [resolve_join h.1, ← List.reverse_suffix, List.reverse_reverse]
  exact suffix_of_keepsLevel [] h.2

/-- No other path does, unless it names the folder again. -/
theorem liesIn_iff_isTame {folder path last : Text}
    (hfolder : (resolve folder).getLast? = some last) (hlast : last ∉ Text.split '/' path) :
    LiesIn folder (join folder path) ↔ IsTame path := by
  refine ⟨fun h => ?_, liesIn_of_isTame folder⟩
  cases hslash : Text.startsWith "/" path with
  | true =>
    rw [LiesIn, join, if_pos hslash] at h
    have hmem : last ∈ resolve path := h.subset (List.mem_of_getLast? hfolder)
    exact absurd (mem_resolve hmem) hlast
  | false =>
    refine ⟨hslash, ?_⟩
    obtain ⟨above, habove⟩ := List.getLast?_eq_some_iff.mp hfolder
    rw [LiesIn, resolve_join hslash, habove, ← List.reverse_suffix, List.reverse_reverse,
      List.reverse_concat] at h
    exact (suffix_foldl_iff hlast []).mp h

end Path

namespace Tree

/-- What stands at the given names, be it a link. -/
def node? : Tree → List Text → Option Tree
  | t, [] => some t
  | .file, _ :: _ => none
  | .link _, _ :: _ => none
  | .folder entries, name :: names => (entries.lookup name).bind fun t => t.node? names

/-- What is found at the given names. -/
def at? (t : Tree) (names : List Text) : Option Tree := (t.node? names).bind seen?

/-- The way to a place in a tree: its names and the folders above it, nearest first. -/
inductive Trail (root : Tree) : List Text → List Tree → Tree → Prop where
  | top : Trail root [] [] root
  | down {names : List Text} {above : List Tree} {entries : List (Text × Tree)} {name : Text}
      {child : Tree} (htrail : Trail root names above (.folder entries))
      (hchild : entries.lookup name = some child) :
      Trail root (name :: names) (.folder entries :: above) child

theorem node?_append (t : Tree) (names more : List Text) :
    t.node? (names ++ more) = (t.node? names).bind fun t => t.node? more := by
  induction names generalizing t with
  | nil => simp [node?]
  | cons name names ih =>
    cases t with
    | file | link target => rfl
    | folder entries =>
      simp only [List.cons_append, node?, Option.bind_assoc]
      congr 1
      funext child
      exact ih child

/-- Going on from what is found is going on from what stands there. -/
theorem bind_seen?_at? (t : Tree) (names : List Text) :
    (t.seen?.bind fun t => t.at? names) = t.at? names := by
  cases t with
  | file | folder entries => rfl
  | link target => cases target <;> cases names <;> rfl

theorem at?_append (t : Tree) (names more : List Text) :
    t.at? (names ++ more) = (t.at? names).bind fun t => t.at? more := by
  simp only [at?, node?_append, Option.bind_assoc]
  congr 1
  funext child
  exact (bind_seen?_at? child more).symm

variable {root t found : Tree} {names : List Text} {above : List Tree}

theorem Trail.node? (h : Trail root names above t) : root.node? names.reverse = some t := by
  induction h with
  | top => rfl
  | down _ hchild ih => simp [node?_append, ih, Tree.node?, hchild]

/-- Following a path in a tree leads where its text leads. -/
theorem Trail.follow {parts : List Text} (htrail : Trail root names above t)
    (h : follow above t parts = some found) :
    ∃ above', Trail root (parts.foldl Path.enter names) above' found := by
  fun_induction Tree.follow above t parts generalizing names with
  | case1 above t =>
    cases h
    exact ⟨above, htrail⟩
  | case2 | case3 => cases h
  | case4 above entries part parts hstay ih =>
    have henter : Path.enter names part = names := by simp [Path.enter, hstay]
    rw [List.foldl_cons, henter]
    exact ih htrail h
  | case5 entries part parts hstay hup ih =>
    cases htrail
    have henter : Path.enter [] part = [] := by simp [Path.enter, hup]
    rw [List.foldl_cons, henter]
    exact ih .top h
  | case6 entries part parts hstay hup parent rest ih =>
    cases htrail with
    | @down names _ _ name _ hparent _ =>
      have henter : Path.enter (name :: names) part = names := by
        simp [Path.enter, hstay, hup]
      rw [List.foldl_cons, henter]
      exact ih hparent h
  | case7 => cases h
  | case8 above entries part parts hstay hup child hchild ih =>
    have henter : Path.enter names part = part :: names := by
      simp [Path.enter, hstay, hup]
    rw [List.foldl_cons, henter]
    exact ih (htrail.down hchild) h

theorem at?_of_find? {path : Text} (h : root.find? path = some found) :
    root.at? (Path.resolve path) = some found := by
  obtain ⟨t, hfollow, hseen⟩ := Option.bind_eq_some_iff.mp h
  obtain ⟨above, htrail⟩ := Trail.top.follow hfollow
  exact Option.bind_eq_some_iff.mpr ⟨t, htrail.node?, hseen⟩

end Tree

end CodeAtlas
