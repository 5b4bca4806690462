import CodeAtlas.Proofs.FaithfulReplies
import CodeAtlas.Proofs.ReadBack
import CodeAtlas.Proofs.SplitLaws

/-! The lines of a file that are kept with an entity of a reply. A reply counts lines from one and
says where the code of an entity begins and how many lines it takes; what is kept are the lines with
numbers in a range around these, as far as the file has them. -/
namespace CodeAtlas

namespace Text

variable {s : Text} {first last : Int}

/-- Items with numbers in a range are what is left when those before and after it are cut off. -/
theorem map_filter_zipIdx {α : Type} (xs : List α) (start : Nat) (first last : Int) :
    ((xs.zipIdx start).filter fun x => first ≤ x.2 ∧ x.2 ≤ last).map Prod.fst =
      (xs.take (last + 1 - start).toNat).drop (first - start).toNat := by
  induction xs generalizing start with
  | nil => simp
  | cons x xs ih =>
    rw [List.zipIdx_cons, List.filter_cons]
    split
    next h =>
      rw [decide_eq_true_eq] at h
      have htake : (last + 1 - start).toNat = (last + 1 - (start + 1 : Nat)).toNat + 1 := by omega
      have hdrop : (first - start).toNat = 0 := by omega
      have hdrop' : (first - (start + 1 : Nat)).toNat = 0 := by omega
      rw [List.map_cons, ih, htake, hdrop, hdrop']
      rfl
    next h =>
      rw [decide_eq_true_eq] at h
      rw [ih]
      by_cases hlast : last < start
      · have htake : (last + 1 - start).toNat = 0 := by omega
        have htake' : (last + 1 - (start + 1 : Nat)).toNat = 0 := by omega
        rw [htake, htake', List.take_zero, List.take_zero, List.drop_nil, List.drop_nil]
      · have htake : (last + 1 - start).toNat = (last + 1 - (start + 1 : Nat)).toNat + 1 := by omega
        have hdrop : (first - start).toNat = (first - (start + 1 : Nat)).toNat + 1 := by omega
        rw [htake, hdrop, List.take_succ_cons, List.drop_succ_cons]

/-- The lines of a text whose numbers, counted from one, go from `first` to `last`. -/
def linesBetween (s : Text) (first last : Int) : List Text :=
  (((lines s).zipIdx 1).filter fun line => first ≤ line.2 ∧ line.2 ≤ last).map Prod.fst

theorem linesBetween_eq (s : Text) (first last : Int) :
    linesBetween s first last = ((lines s).take last.toNat).drop (first - 1).toNat := by
  rw [linesBetween, map_filter_zipIdx]
  congr 2
  omega

theorem slice_lines (s : Text) (first : Int) (hlast : 0 ≤ last) :
    slice (lines s) first.toNat last = linesBetween s (first + 1) last := by
  rw [linesBetween_eq, slice, if_neg (by omega)]
  congr 2
  omega

theorem linesBetween_isInfix (s : Text) (first last : Int) :
    linesBetween s first last <:+: lines s := by
  rw [linesBetween_eq]
  exact (List.drop_suffix _ _).isInfix.trans (List.take_prefix _ _).isInfix

theorem linesBetween_eq_nil (h : last < first) : linesBetween s first last = [] := by
  rw [linesBetween, List.map_eq_nil_iff, List.filter_eq_nil_iff]
  intro line _ hline
  rw [decide_eq_true_eq] at hline
  omega

/-- Lines that stand together in a text are a part of it. -/
theorem intercalate_linesBetween_isInfix (s : Text) (first last : Int) :
    intercalate "\n" (linesBetween s first last) <:+: s := by
  have hparts := intercalate_isInfix "\n" (linesBetween_isInfix s first last)
  have hwhole : intercalate "\n" (lines s) = s := intercalate_split s
  rwa [hwhole] at hparts

/-- The lines of what some lines are put together to are these lines. -/
theorem lines_intercalate_linesBetween (h : linesBetween s first last ≠ []) :
    lines (intercalate "\n" (linesBetween s first last)) = linesBetween s first last := by
  apply split_intercalate h
  intro line hline
  exact not_mem_of_mem_split ((linesBetween_isInfix s first last).subset hline)

/-- The line with the number `j` comes as many lines after the first as its number is larger. -/
theorem getElem?_linesBetween {j : Nat} (hfirst : 1 ≤ first) (hj : first ≤ j) (hlast : j ≤ last) :
    (linesBetween s first last)[(j - first).toNat]? = (lines s)[j - 1]? := by
  rw [linesBetween_eq, List.getElem?_drop, List.getElem?_take_of_lt (by omega)]
  congr 1
  omega

end Text

namespace Outline

variable {path content : Text} {line : Int} {length : Nat}

/-- The lines that are kept with an entity: from two before its first line to three after the line
behind its last, as far as the file has them. -/
def codeWindow (content : Text) (line : Int) (length : Nat) : Text :=
  Text.intercalate "\n" (Text.linesBetween content (max 1 (line - 2))
    (min (Text.lines content).length (line + length + 3)))

theorem isFirst_iff {n first : Int} :
    (if (Number.int n).isPositive then Number.int n = .int first else first = 0) ↔
      first = max 0 n := by
  simp only [Number.isPositive, decide_eq_true_eq, Number.int.injEq]
  split <;> omega

theorem isLast_iff {n last : Int} {count : Nat} :
    (if (Number.int n).isBelow count then Number.int n = .int last else last = count) ↔
      last = min (count : Int) n := by
  simp only [Number.isBelow, decide_eq_true_eq, Number.int.injEq]
  split <;> omega

theorem slice_eq_codeWindow (content : Text) (hline : 1 ≤ line) (length : Nat) :
    Text.intercalate "\n" (Text.slice (Text.lines content) (max 0 (line + -3)).toNat
      (min (Text.lines content).length (line + length + 3))) = codeWindow content line length := by
  have hfirst : max 0 (line + -3) + 1 = max 1 (line - 2) := by omega
  rw [Text.slice_lines _ _ (by omega), hfirst]
  rfl

/-- Whole numbers for the line and the length give a window, wherever they point. -/
theorem sampled_int (hline : 1 ≤ line) {sample? : Option Text} :
    Sampled content (.int line) (.int length) sample? ↔
      sample? = some (codeWindow content line length) := by
  have hpositive : (Number.int line).isPositive = true := by
    rw [Number.isPositive, decide_eq_true_eq]
    omega
  constructor
  · intro h
    cases h with
    | nowhere isLine isNot =>
      cases isLine
      rw [hpositive] at isNot
      cases isNot
    | around isLine _ isLength isStart isStop isFirst isLast =>
      cases isLine
      cases isLength
      cases isStart
      cases isStop
      rw [isFirst_iff] at isFirst
      rw [isLast_iff] at isLast
      rw [isFirst, isLast, slice_eq_codeWindow content hline length]
  · rintro rfl
    rw [← slice_eq_codeWindow content hline length]
    exact .around rfl hpositive rfl rfl rfl (isFirst_iff.mpr rfl) (isLast_iff.mpr rfl)

/-- The description says on which line the code of its entity begins and how many lines it takes,
which are twenty if it does not say. -/
inductive PlacedAt : Value → Int → Nat → Prop where
  | intro {data own : Fields} {line : Int} {length : Nat}
      (isOwn : data.getD "properties" (.dict []) = .dict own)
      (isLine : merged? data own "line_number" = some (.int line))
      (isLength : (merged? data own "code_length").getD (.int 20) = .int length) :
      PlacedAt (.dict data) line length

section
variable {data : Value} {e : Entity}

/-- A description with a place is accepted. -/
theorem PlacedAt.exists_entityOf (h : PlacedAt data line length) (hline : 1 ≤ line)
    (hdata : data.IsDistinct) (path content : Text) :
    ∃ e, entityOf (.str path) (.str content) data = .ok e := by
  obtain ⟨hown, hplace, hlength⟩ := h
  cases hdata with
  | dict hkeys _ =>
    refine ⟨_, entityOf_dict_eq_ok.mpr ⟨_, some (codeWindow content line length), hown, ?_, rfl⟩⟩
    rw [getD_gathered hkeys, getD_gathered hkeys, hplace, hlength]
    exact (sampled_int hline).mpr rfl

/-- What it describes has the window of the code. -/
theorem PlacedAt.sample_eq (h : PlacedAt data line length) (hline : 1 ≤ line)
    (he : Describes path content data e) :
    e.properties.field "context_sample" = .ok (.str (codeWindow content line length)) := by
  obtain ⟨hown, hplace, hlength⟩ := h
  obtain ⟨hown', hsample, -, hmerged⟩ := he
  rw [hown] at hown'
  cases hown'
  rw [hplace, hlength] at hsample
  rw [(sampled_int hline).mp hsample] at hmerged
  have hfield := hmerged "context_sample"
  exact Value.field_eq_ok.mpr ⟨_, rfl, hfield⟩

end

/-- What the sample of a code that begins on `line` and takes `length` lines has to be. -/
structure IsCodeSample (content : Text) (line : Int) (length : Nat) (sample : Text) : Prop where
  isWindow : sample = codeWindow content line length
  /-- A range without lines gives the empty text. -/
  isEmpty : min ((Text.lines content).length : Int) (line + length + 3) < max 1 (line - 2) →
    sample = []
  /-- The first line of the code and all its other lines are there, as far as the file has them,
  each at its distance from the first line of the sample. -/
  hasLine (j : Nat) : j = line ∨ (line ≤ j ∧ j < line + length) → j ≤ (Text.lines content).length →
    (Text.lines sample)[(j - max 1 (line - 2)).toNat]? = (Text.lines content)[j - 1]?
  isPart : sample <:+: content

theorem isCodeSample_codeWindow (content : Text) (hline : 1 ≤ line) (length : Nat) :
    IsCodeSample content line length (codeWindow content line length) where
  isWindow := rfl
  isEmpty h := by
    rw [codeWindow, Text.linesBetween_eq_nil h]
    rfl
  hasLine j hj hcount := by
    have hat := Text.getElem?_linesBetween (s := content) (show 1 ≤ max 1 (line - 2) by omega)
      (show max 1 (line - 2) ≤ j by omega)
      (show (j : Int) ≤ min ((Text.lines content).length : Int) (line + length + 3) by omega)
    rw [codeWindow, Text.lines_intercalate_linesBetween, hat]
    intro hnil
    rw [hnil, List.getElem?_nil, eq_comm, List.getElem?_eq_none_iff] at hat
    omega
  isPart := Text.intercalate_linesBetween_isInfix _ _ _

/-- With every entity of a reply that says where its code begins, on a line counted from one, and
how many lines it takes, the lines around the code are kept: those numbered from two before the
first line to three after the line behind the last, as far as the file has them. Such an entity
never makes the reply fail. -/
theorem code_samples_are_windows (path content text : Text) (language : Value)
    (embeddings : Except Fault (List Value)) {answer : Fields}
    (hanswer : Answers (.str text) answer) :
    let consultation := consult ⟨.ok (.str text), embeddings⟩ (.str path) language (.str content)
    (consultation.failure = none →
      ∃ members, items? (answer.getD "entities" (.list [])) = some members ∧
        List.Forall₂ (fun data e => ∀ line length, 1 ≤ line → PlacedAt data line length →
          ∃ sample, e.properties.field "context_sample" = .ok (.str sample) ∧
            IsCodeSample content line length sample) members consultation.outline.entities) ∧
    ∀ members links, items? (answer.getD "entities" (.list [])) = some members →
      items? (answer.getD "relationships" (.list [])) = some links →
      (∀ data ∈ members, (∃ line length, 1 ≤ line ∧ PlacedAt data line length) ∨
        ∃ e, Describes path content data e) →
      (∀ data ∈ links, ∃ r, DescribesLink data r) → consultation.failure = none := by
  dsimp only
  constructor
  · intro hfailure
    cases hreply : ofReply (.str path) (.str content) (.str text) with
    | error fault =>
      rw [(consult_of_error language embeddings hreply).2] at hfailure
      cases hfailure
    | ok outline =>
      rw [(consult_of_ok language embeddings hreply).1]
      rw [ofReply_of_answers hanswer] at hreply
      obtain ⟨members, _, hmembers, _, hdescribed, _⟩ := isOutlineOf_of_ofDocument hanswer hreply
      refine ⟨members, hmembers, hdescribed.imp fun data e he line length hline hplaced => ?_⟩
      exact ⟨_, hplaced.sample_eq hline he, isCodeSample_codeWindow content hline length⟩
  · intro members links hmembers hlinks hdescribed hlinked
    have hdistinct := hanswer.isDistinct_of_mem (members_of_items? hmembers)
    have haccepted : ∀ data ∈ members, ∃ e, entityOf (.str path) (.str content) data = .ok e := by
      intro data hdata
      rcases hdescribed data hdata with ⟨line, length, hline, hplaced⟩ | ⟨e, he⟩
      · exact hplaced.exists_entityOf hline (hdistinct data hdata) path content
      · exact exists_entityOf (hdistinct data hdata) he
    obtain ⟨outline, hmade⟩ := exists_ofDocument_of_parts hmembers hlinks haccepted hlinked
    rw [← ofReply_of_answers hanswer] at hmade
    exact (consult_of_ok language embeddings hmade).2

/-- The document of a reply with one entity, on the second line. -/
def secondLineAnswer : Fields :=
  [("entities", .list [.dict [("name", .str "f"), ("line_number", .int 2)]]),
    ("relationships", .list [.dict [("source", .str "f")]])]

theorem isLegible_secondLineAnswer : (Value.dict secondLineAnswer).IsLegible Json.depthLimit := by
  have hshort : (2 : Int).natAbs < 10 ^ Text.digitLimit :=
    Nat.lt_of_lt_of_le (by decide : 2 < 10 ^ 1) (Nat.pow_le_pow_right (by decide) (by decide))
  have hentity : (Value.dict [("name", .str "f"), ("line_number", .int 2)]).IsLegible 988 :=
    .dict (Fields.isDistinct_of_keys ["name", "line_number"] rfl (by decide))
      (List.forall_mem_cons.mpr ⟨.str _ _, List.forall_mem_singleton.mpr (.int _ hshort)⟩)
  have hlink : (Value.dict [("source", .str "f")]).IsLegible 988 :=
    .dict (Fields.isDistinct_of_keys ["source"] rfl (by decide))
      (List.forall_mem_singleton.mpr (.str _ _))
  exact .dict (Fields.isDistinct_of_keys ["entities", "relationships"] rfl (by decide))
    (List.forall_mem_cons.mpr ⟨.list (List.forall_mem_singleton.mpr hentity),
      List.forall_mem_singleton.mpr (.list (List.forall_mem_singleton.mpr hlink))⟩)

theorem answers_secondLine : Answers (.str (replyWithLine "2")) secondLineAnswer :=
  ⟨_, Json.write (.dict secondLineAnswer), rfl, by decide +kernel,
    Json.readWithin_writeWith isLegible_secondLineAnswer rfl .line⟩

theorem placedAt_secondLine :
    PlacedAt (.dict [("name", .str "f"), ("line_number", .int 2)]) 2 20 :=
  @PlacedAt.intro _ [] _ _ rfl rfl rfl

theorem code_samples_are_windows_secondLine :
    let consultation := consult ⟨.ok (.str (replyWithLine "2")), .ok []⟩ (.str "a.py")
      (.str "python") (.str "a\nb")
    Answers (.str (replyWithLine "2")) secondLineAnswer ∧ consultation.failure = none ∧
    ∃ e sample, consultation.outline.entities = [e] ∧
      e.properties.field "context_sample" = .ok (.str sample) ∧
      IsCodeSample "a\nb" 2 20 sample := by
  have hmain := code_samples_are_windows "a.py" "a\nb" (replyWithLine "2") (.str "python") (.ok [])
    answers_secondLine
  dsimp only at hmain ⊢
  obtain ⟨hsamples, haccepted⟩ := hmain
  have hfailure := haccepted _ _ rfl rfl
    (List.forall_mem_singleton.mpr (.inl ⟨2, 20, by decide, placedAt_secondLine⟩))
    (List.forall_mem_singleton.mpr ⟨_, .intro _⟩)
  obtain ⟨members, hmembers, hall⟩ := hsamples hfailure
  cases hmembers
  obtain ⟨e, rest, hfirst, hrest, hentities⟩ := List.forall₂_cons_left_iff.mp hall
  cases hrest
  obtain ⟨sample, hsample⟩ := hfirst 2 20 (by decide) placedAt_secondLine
  exact ⟨answers_secondLine, hfailure, e, sample, hentities, hsample⟩

end Outline

end CodeAtlas
