import CodeAtlas.Json.Reader
import CodeAtlas.Proofs.ExceptLaws
import CodeAtlas.Proofs.FieldsLaws
import CodeAtlas.Proofs.NumeralLaws

/-! What reading a document gives: values that are not nested deeper than the reader goes, whole
numbers that are not longer than it takes, and dictionaries that have no key twice, however often
the text repeats one. -/
namespace CodeAtlas

namespace Value

/-- No dictionary inside the value has a key twice. -/
inductive IsDistinct : Value → Prop where
  | null : IsDistinct .null
  | bool (b : Bool) : IsDistinct (.bool b)
  | int (n : Int) : IsDistinct (.int n)
  | float (x : Binary64) : IsDistinct (.float x)
  | str (s : Text) : IsDistinct (.str s)
  | list {items : List Value} (items_distinct : ∀ v ∈ items, IsDistinct v) :
      IsDistinct (.list items)
  | dict {fields : Fields} (keys_distinct : fields.IsDistinct)
      (values_distinct : ∀ field ∈ fields, IsDistinct field.2) : IsDistinct (.dict fields)

/-- A value that a reader can give: at most `room` lists and dictionaries are nested in it, its
whole numbers are short enough, and no dictionary has a key twice. -/
inductive IsLegible : Nat → Value → Prop where
  | null (room : Nat) : IsLegible room .null
  | bool (room : Nat) (b : Bool) : IsLegible room (.bool b)
  | int (room : Nat) {n : Int} (short : n.natAbs < 10 ^ Text.digitLimit) : IsLegible room (.int n)
  | float (room : Nat) (x : Binary64) : IsLegible room (.float x)
  | str (room : Nat) (s : Text) : IsLegible room (.str s)
  | list {room : Nat} {items : List Value} (items_legible : ∀ v ∈ items, IsLegible room v) :
      IsLegible (room + 1) (.list items)
  | dict {room : Nat} {fields : Fields} (keys_distinct : fields.IsDistinct)
      (values_legible : ∀ field ∈ fields, IsLegible room field.2) :
      IsLegible (room + 1) (.dict fields)

namespace IsLegible

variable {room : Nat} {v : Value}

theorem isDistinct (h : v.IsLegible room) : v.IsDistinct := by
  induction h with
  | null => exact .null
  | bool _ b => exact .bool b
  | int _ _ => exact .int _
  | float _ x => exact .float x
  | str _ s => exact .str s
  | list _ ih => exact .list ih
  | dict hkeys _ ih => exact .dict hkeys ih

theorem mono (h : v.IsLegible room) {more : Nat} (hmore : room ≤ more) : v.IsLegible more := by
  induction h generalizing more with
  | null => exact .null _
  | bool _ b => exact .bool _ b
  | int _ hshort => exact .int _ hshort
  | float _ x => exact .float _ x
  | str _ s => exact .str _ s
  | list _ ih =>
    obtain ⟨more, rfl⟩ := Nat.exists_eq_add_of_le' (Nat.le_of_add_left_le hmore)
    exact .list fun v hv => ih v hv (Nat.le_of_succ_le_succ hmore)
  | dict hkeys _ ih =>
    obtain ⟨more, rfl⟩ := Nat.exists_eq_add_of_le' (Nat.le_of_add_left_le hmore)
    exact .dict hkeys fun field hfield => ih field hfield (Nat.le_of_succ_le_succ hmore)

theorem of_list {items : List Value} (h : (Value.list items).IsLegible (room + 1)) :
    ∀ v ∈ items, v.IsLegible room := by
  cases h with
  | list hitems => exact hitems

theorem of_dict {fields : Fields} (h : (Value.dict fields).IsLegible (room + 1)) :
    fields.IsDistinct ∧ ∀ field ∈ fields, field.2.IsLegible room := by
  cases h with
  | dict hkeys hvalues => exact ⟨hkeys, hvalues⟩

theorem getD {fields : Fields} {default : Value}
    (hfields : ∀ field ∈ fields, field.2.IsLegible room) (hdefault : default.IsLegible room)
    (key : Text) : (fields.getD key default).IsLegible room := by
  rw [Fields.getD_eq]
  cases hget : fields.get? key with
  | none => exact hdefault
  | some v =>
    obtain ⟨before, after, hsplit, _⟩ := List.lookup_eq_some_iff.mp hget
    exact hfields (key, v) (by simp [hsplit])

end IsLegible

end Value

namespace Json

section
variable {s digits rest : Text}

theorem digitsValue_lt (h : ∀ c ∈ digits, c.isDigit = true) :
    digitsValue digits < 10 ^ digits.length := by
  have hfold : ∀ n, digits.foldl (fun n d => 10 * n + (d.val - 0x30)) n <
      (n + 1) * 10 ^ digits.length := by
    induction digits with
    | nil => simp
    | cons c digits ih =>
      intro n
      have hc : c.isDigit = true := h c (by simp)
      have hdigit : c.val - 0x30 < 10 := by
        simp only [CodePoint.isDigit, Bool.and_eq_true, decide_eq_true_eq] at hc
        omega
      have hrest := ih (fun d hd => h d (by simp [hd])) (10 * n + (c.val - 0x30))
      calc digits.foldl (fun n d => 10 * n + (d.val - 0x30)) (10 * n + (c.val - 0x30))
          < (10 * n + (c.val - 0x30) + 1) * 10 ^ digits.length := hrest
        _ ≤ ((n + 1) * 10) * 10 ^ digits.length := Nat.mul_le_mul_right _ (by omega)
        _ = (n + 1) * 10 ^ (digits.length + 1) := by rw [Nat.pow_succ']; ac_rfl
  rw [digitsValue]
  simpa using hfold 0

theorem isDigit_of_mem_wholePart (h : wholePart s = (digits, rest)) :
    ∀ c ∈ digits, c.isDigit = true := by
  unfold wholePart at h
  split at h
  · cases h
    simp
  next c cs =>
    split at h
    next hzero =>
      cases h
      rw [List.forall_mem_singleton, eq_of_beq hzero]
      decide
    · cases h
      exact fun c hc => List.all_eq_true.mp List.all_takeWhile c hc

end

/-- A token whose value needs no room. -/
def Token.IsLegible : Token → Prop
  | .scalar v => v.IsLegible 0
  | _ => True

theorem scanNumber_isLegible {negative : Bool} {s rest : Text} {token : Token}
    (h : scanNumber negative s = some (token, rest)) : token.IsLegible := by
  unfold scanNumber at h
  cases hwhole : wholePart s with
  | mk whole after =>
    rw [hwhole] at h
    dsimp only at h
    split at h
    · cases h
    · split at h
      · split at h <;> cases h
        · trivial
        next hshort =>
          have hvalue : digitsValue whole < 10 ^ Text.digitLimit :=
            Nat.lt_of_lt_of_le (digitsValue_lt (isDigit_of_mem_wholePart hwhole))
              (Nat.pow_le_pow_right (by decide) (Nat.le_of_not_lt hshort))
          refine .int 0 ?_
          cases negative <;> simpa using hvalue
      · cases h
        exact .float 0 _

theorem fixedTokens_isLegible : ∀ fixed ∈ fixedTokens, fixed.2.IsLegible := by
  simp only [fixedTokens, List.forall_mem_cons, List.not_mem_nil, false_implies, implies_true,
    Token.IsLegible, and_true, true_and]
  exact ⟨.null 0, .bool 0 _, .bool 0 _, .float 0 _, .float 0 _, .float 0 _⟩

theorem scanToken_isLegible {s rest : Text} {token : Token} (h : scanToken s = some (token, rest)) :
    token.IsLegible := by
  unfold scanToken at h
  split at h
  next written token' hfound =>
    cases h
    exact fixedTokens_isLegible _ (List.mem_of_find?_eq_some hfound)
  · split at h
    · obtain ⟨_, _, heq⟩ := Option.map_eq_some_iff.mp h
      cases heq
      trivial
    · split at h
      · exact scanNumber_isLegible h
      · exact scanNumber_isLegible h

theorem tokensWithin_isLegible (fuel : Nat) (s : Text) :
    ∀ token ∈ tokensWithin fuel s, token.IsLegible := by
  induction fuel generalizing s with
  | zero =>
    cases s <;> simp [tokensWithin, Token.IsLegible]
  | succ fuel ih =>
    cases s with
    | nil => simp [tokensWithin]
    | cons c cs =>
      unfold tokensWithin
      split
      · exact ih cs
      · split
        next token rest hscan =>
          intro other hother
          rcases List.mem_cons.mp hother with rfl | hother
          · exact scanToken_isLegible hscan
          · exact ih rest other hother
        · simp [Token.IsLegible]

/-- The values kept in a container that is still open. -/
def Frame.IsLegible (room : Nat) : Frame → Prop
  | .list items => ∀ v ∈ items, v.IsLegible room
  | .entry fields _ => ∀ field ∈ fields, field.2.IsLegible room

namespace State

/-- Every container on the stack was opened within the limit and keeps values that fit into it. -/
def Fits (limit : Nat) : List Frame → Prop
  | [] => True
  | frame :: rest =>
    rest.length < limit ∧ frame.IsLegible (limit - (rest.length + 1)) ∧ Fits limit rest

/-- What is being read fits below a stack of the given height. -/
def PhaseFits (limit height : Nat) : Phase → Prop
  | .value => True
  | .item => 0 < height
  | .field => height < limit
  | .key fields | .colon fields _ =>
    height < limit ∧ ∀ field ∈ fields, field.2.IsLegible (limit - (height + 1))
  | .after v => v.IsLegible (limit - height)

def IsLegible (limit : Nat) (s : State) : Prop :=
  Fits limit s.stack ∧ PhaseFits limit s.stack.length s.phase

variable {limit : Nat} {stack : List Frame} {token : Token} {v : Value} {s s' : State}

theorem openValue_isLegible (hstack : Fits limit stack) (htoken : token.IsLegible)
    (h : openValue limit stack token = .ok s) : s.IsLegible limit := by
  cases token with
  | text t =>
    cases h
    exact ⟨hstack, .str _ t⟩
  | scalar v =>
    cases h
    exact ⟨hstack, Value.IsLegible.mono htoken (Nat.zero_le _)⟩
  | openList =>
    simp only [openValue, enter] at h
    split at h
    next hroom =>
      cases h
      exact ⟨⟨hroom, fun v hv => absurd hv List.not_mem_nil, hstack⟩, Nat.succ_pos _⟩
    · cases h
  | openDict =>
    simp only [openValue, enter] at h
    split at h
    next hroom =>
      cases h
      exact ⟨hstack, hroom⟩
    · cases h
  | _ => cases h

theorem room_eq {height : Nat} (h : height < limit) :
    limit - height = limit - (height + 1) + 1 := by omega

theorem closeValue_isLegible (hstack : Fits limit stack)
    (hv : v.IsLegible (limit - stack.length)) (h : closeValue stack v token = .ok s) :
    s.IsLegible limit := by
  cases stack with
  | nil => cases token <;> cases h
  | cons frame rest =>
    obtain ⟨hroom, hframe, hrest⟩ := hstack
    cases frame with
    | list items =>
      have hitems : ∀ x ∈ v :: items, x.IsLegible (limit - (rest.length + 1)) :=
        List.forall_mem_cons.mpr ⟨hv, hframe⟩
      cases token with
      | comma =>
        cases h
        exact ⟨⟨hroom, hitems, hrest⟩, trivial⟩
      | closeList =>
        cases h
        refine ⟨hrest, ?_⟩
        rw [PhaseFits, room_eq hroom]
        exact .list fun x hx => hitems x (List.mem_reverse.mp hx)
      | _ => cases h
    | entry fields key =>
      have hfields : ∀ field ∈ (key, v) :: fields,
          field.2.IsLegible (limit - (rest.length + 1)) :=
        List.forall_mem_cons.mpr ⟨hv, hframe⟩
      cases token with
      | comma =>
        cases h
        exact ⟨hrest, hroom, hfields⟩
      | closeDict =>
        cases h
        refine ⟨hrest, ?_⟩
        rw [PhaseFits, room_eq hroom]
        refine .dict (Fields.ofPairs_isDistinct _) (Fields.setAll_values (by simp) ?_)
        exact fun field hfield => hfields field (List.mem_reverse.mp hfield)
      | _ => cases h

theorem step_isLegible (hs : s.IsLegible limit) (htoken : token.IsLegible)
    (h : s.step limit token = .ok s') : s'.IsLegible limit := by
  obtain ⟨stack, phase⟩ := s
  obtain ⟨hstack, hphase⟩ := hs
  cases phase with
  | value => exact openValue_isLegible hstack htoken h
  | item =>
    cases token with
    | closeList =>
      cases h
      cases stack with
      | nil => exact absurd hphase (Nat.lt_irrefl 0)
      | cons frame rest =>
        obtain ⟨hroom, -, hrest⟩ := hstack
        refine ⟨hrest, ?_⟩
        change Value.IsLegible (limit - rest.length) _
        rw [room_eq hroom]
        exact .list fun v hv => absurd hv List.not_mem_nil
    | _ => exact openValue_isLegible hstack htoken h
  | field =>
    cases token with
    | closeDict =>
      cases h
      refine ⟨hstack, ?_⟩
      rw [PhaseFits, room_eq hphase]
      exact .dict List.nodup_nil fun field hfield => absurd hfield List.not_mem_nil
    | text key =>
      cases h
      exact ⟨hstack, hphase, fun field hfield => absurd hfield List.not_mem_nil⟩
    | _ => cases h
  | key fields =>
    cases token with
    | text key =>
      cases h
      exact ⟨hstack, hphase⟩
    | _ => cases h
  | colon fields key =>
    cases token with
    | colon =>
      cases h
      exact ⟨⟨hphase.1, hphase.2, hstack⟩, trivial⟩
    | _ => cases h
  | after v => exact closeValue_isLegible hstack hphase h

end State

theorem readWithin_isLegible {limit : Nat} {s : Text} {v : Value}
    (h : readWithin limit s = .ok v) : v.IsLegible limit := by
  unfold readWithin at h
  obtain ⟨final, hrun, hfinish⟩ := Except.bind_eq_ok.mp h
  have hstart : State.start.IsLegible limit := ⟨trivial, trivial⟩
  have hfinal : final.IsLegible limit := Except.foldlM_invariant (State.IsLegible limit)
    (fun _ hs token htoken _ hstep =>
      State.step_isLegible hs (tokensWithin_isLegible _ _ token htoken) hstep) hstart hrun
  unfold State.finish at hfinish
  split at hfinish
  · cases hfinish
    exact hfinal.2
  · cases hfinish

end Json

end CodeAtlas
