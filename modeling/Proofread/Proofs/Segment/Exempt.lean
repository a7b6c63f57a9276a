import Mathlib.Data.List.Infix
import Mathlib.Data.List.Perm.Basic
import Proofread.Segment

namespace Proofread

theorem Text.infix_iff_slice {phrase text : List Char} :
    phrase <:+: text ↔ ∃ place, (text.drop place).take phrase.length = phrase := by
  constructor
  case mp =>
    rintro ⟨before, after, rfl⟩
    exact ⟨before.length, by simp⟩
  case mpr =>
    rintro ⟨place, slice⟩
    have stands : phrase <+: text.drop place := List.prefix_iff_eq_take.mpr slice.symm
    exact stands.isInfix.trans (List.drop_suffix place text).isInfix

namespace AllowList

variable {allows other : AllowList} {phrase text : String}

theorem exempts_iff :
    allows.exempts text ↔ ∃ phrase ∈ allows, phrase.toList <:+: text.toList := by
  simp [exempts, Text.occursIn_iff]

theorem exempts_of_empty_mem (h : "" ∈ allows) (text : String) : allows.exempts text :=
  exempts_iff.mpr ⟨"", h, List.nil_infix⟩

theorem exempts_append (h : allows.exempts text) (before after : String) :
    allows.exempts (before ++ text ++ after) := by
  have ⟨phrase, hp, occurs⟩ := exempts_iff.mp h
  refine exempts_iff.mpr ⟨phrase, hp, occurs.trans ?_⟩
  rw [String.toList_append, String.toList_append]
  exact List.infix_append ..

def Covers (allows other : AllowList) : Prop :=
  ∀ phrase ∈ other, ∃ part ∈ allows, part.toList <:+: phrase.toList

namespace Covers

theorem of_subset (h : other ⊆ allows) : Covers allows other :=
  fun phrase hp => ⟨phrase, h hp, List.infix_rfl⟩

theorem exempts (h : Covers allows other) (he : other.exempts text) : allows.exempts text := by
  have ⟨phrase, hp, occurs⟩ := exempts_iff.mp he
  have ⟨part, hm, within⟩ := h phrase hp
  exact exempts_iff.mpr ⟨part, hm, within.trans occurs⟩

theorem exempts_eq (h : Covers allows other) (h' : Covers other allows) (text : String) :
    allows.exempts text = other.exempts text :=
  Bool.eq_iff_iff.mpr ⟨h'.exempts, h.exempts⟩

end Covers

def minimal (allows : AllowList) : AllowList :=
  allows.filter fun phrase =>
    !allows.any fun part => part != phrase && Text.occursIn part.toList phrase.toList

theorem mem_minimal_iff :
    phrase ∈ allows.minimal ↔
      phrase ∈ allows ∧ ∀ part ∈ allows, part ≠ phrase → ¬part.toList <:+: phrase.toList := by
  simp [minimal, ← Text.occursIn_iff]

theorem exists_part (h : phrase ∈ allows) (hm : phrase ∉ allows.minimal) :
    ∃ part ∈ allows, part ≠ phrase ∧ part.toList <:+: phrase.toList := by
  by_contra none
  refine hm (mem_minimal_iff.mpr ⟨h, fun part hp ne within => ?_⟩)
  exact none ⟨part, hp, ne, within⟩

theorem length_lt_of_infix {part : String} (h : part.toList <:+: phrase.toList)
    (ne : part ≠ phrase) : part.length < phrase.length := by
  rw [← String.length_toList, ← String.length_toList]
  refine Nat.lt_of_le_of_ne h.length_le fun same => ?_
  exact ne (String.toList_inj.mp (h.eq_of_length same))

-- A phrase that was left out contains another one, which is shorter; so in the end it contains one
-- that was kept.
theorem exists_minimal {phrase : String} (h : phrase ∈ allows) :
    ∃ least ∈ allows.minimal, least.toList <:+: phrase.toList :=
  if hm : phrase ∈ allows.minimal then
    ⟨phrase, hm, List.infix_rfl⟩
  else
    have ⟨_, hp, _, within⟩ := exists_part h hm
    have ⟨least, hl, occurs⟩ := exists_minimal hp
    ⟨least, hl, occurs.trans within⟩
termination_by phrase.length
decreasing_by exact length_lt_of_infix within ‹_ ≠ phrase›

theorem minimal_covers (allows : AllowList) : Covers allows.minimal allows :=
  fun _ => exists_minimal

theorem covers_minimal (allows : AllowList) : Covers allows allows.minimal :=
  .of_subset (List.filter_subset_self _)

end AllowList

namespace Segment

open AllowList

theorem pass_eq_ite (allows : AllowList) (dictionary : Dictionary) (settings : Settings)
    (text : String) :
    pass allows dictionary settings text
      = if allows.exempts text then ⟨[], []⟩ else pass [] dictionary settings text :=
  rfl

theorem pass_exempt (allows : AllowList) (dictionary : Dictionary) (settings : Settings)
    (text : String) :
    let answer (allows : AllowList) : Bool × Pass :=
      (allows.exempts text, pass allows dictionary settings text)
    (allows.exempts text ↔ ∃ phrase ∈ allows, ∃ place,
      (text.toList.drop place).take phrase.length = phrase.toList) ∧
    ("" ∈ allows → allows.exempts text) ∧
    (allows.exempts text → pass allows dictionary settings text = ⟨[], []⟩) ∧
    (¬allows.exempts text →
      pass allows dictionary settings text = pass [] dictionary settings text) ∧
    (allows.exempts text → ∀ before after more, allows ⊆ more →
      AllowList.exempts more (before ++ text ++ after)) ∧
    (∀ other, other.Perm allows → answer other = answer allows) ∧
    (∀ other, other.Sublist allows → allows ⊆ other → answer other = answer allows) ∧
    answer allows.minimal = answer allows := by
  intro answer
  -- Two lists say the same when each phrase of the one contains a phrase of the other, both ways round.
  have alike {other : AllowList} (h : Covers other allows) (h' : Covers allows other) :
      answer other = answer allows := by
    have same := h.exempts_eq h' text
    simp only [answer, pass_eq_ite other, pass_eq_ite allows, same]
  refine ⟨?slice, fun nothing => exempts_of_empty_mem nothing text, fun exempt => ?silent,
    fun checked => ?checked, fun exempt before after more h => ?longer, fun other h => ?permuted,
    fun other h h' => ?repeats, ?minimal⟩
  case slice    => simp only [exempts_iff, Text.infix_iff_slice, String.length_toList]
  case silent   => rw [pass_eq_ite, if_pos exempt]
  case checked  => rw [pass_eq_ite, if_neg checked]
  case longer   => exact (Covers.of_subset h).exempts (exempts_append exempt before after)
  case permuted => exact alike (.of_subset h.symm.subset) (.of_subset h.subset)
  case repeats  => exact alike (.of_subset h') (.of_subset h.subset)
  case minimal  => exact alike allows.minimal_covers allows.covers_minimal

-- Two phrases contain the one that is given twice. It is not needed twice, nor are they.
theorem pass_exempt_nested :
    let allows : AllowList := ["abc", "bc", "ca", "bcd", "bc"]
    let dictionary : Dictionary := [⟨"d", "e", .literal "d"⟩]
    let found (allows : AllowList) (text : String) := pass allows dictionary {} text
    found allows "abcd" = ⟨[], []⟩ ∧ found ["bc", "ca", "bc"] "abcd" = ⟨[], []⟩ ∧
      found ["abc", "ca", "bcd", "bc"] "abcd" = ⟨[], []⟩ ∧ found allows.reverse "abcd" = ⟨[], []⟩ ∧
      AllowList.exempts ("" :: allows) "ac\x7b\x7db" ∧
      AllowList.exempts ("" :: allows) ("\x7b\x7d" ++ "abcd" ++ "\n") ∧
      found allows "ac\x7b\x7db" = ⟨[⟨"empty_brace", "空欄になっています。", 2, 4⟩], [.segmentPass 5 1]⟩ := by
  intro allows dictionary found
  have exempt : allows.exempts "abcd" := by decide +kernel
  have checked : ¬allows.exempts "ac\x7b\x7db" := by decide +kernel
  have ⟨_, _, silent, _, longer, permuted, repeats, minimal⟩ :=
    pass_exempt allows dictionary {} "abcd"
  have ⟨_, _, _, unexempt, _⟩ := pass_exempt allows dictionary {} "ac\x7b\x7db"
  have ⟨_, nothing, _⟩ := pass_exempt ("" :: allows) dictionary {} "ac\x7b\x7db"
  have kept : allows.minimal = ["bc", "ca", "bc"] := by decide +kernel
  rw [kept] at minimal
  have once := repeats ["abc", "ca", "bcd", "bc"] (by decide) (by decide)
  have back := permuted allows.reverse (List.reverse_perm allows)
  have silenced : found allows "abcd" = ⟨[], []⟩ := silent exempt
  refine ⟨silenced, (congrArg Prod.snd minimal).trans silenced, (congrArg Prod.snd once).trans silenced,
    (congrArg Prod.snd back).trans silenced, nothing List.mem_cons_self,
    longer exempt _ _ _ (List.subset_cons_self ..), (unexempt checked).trans ?_⟩
  decide +kernel

end Segment

end Proofread
