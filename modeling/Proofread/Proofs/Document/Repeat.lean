import Mathlib.Data.Finset.Card
import Mathlib.Data.List.FinRange
import Proofread.Proofs.Appended
import Proofread.Proofs.Pattern.Enclosed

namespace Proofread

namespace Caption

open Pattern Text

def isContent (c : Char) : Bool :=
  c != '\x7d' && c != '\n'

-- What lies before the first closing brace, which must stand on the same line.
def content? (text : List Char) (inner : Nat) : Option (List Char) :=
  let content := (text.drop inner).takeWhile isContent
  if text[inner + content.length]? = some '\x7d' then some content else none

def at? (text : List Char) (start : Nat) : Option Caption :=
  if "\\caption\x7b".toList <+: text.drop start then
    (content? text (start + 9)).map fun content =>
      ⟨⟨start, start + 9 + content.length + 1⟩, content⟩
  else
    none

def next? (text : List Char) (cursor : Nat) : Option Caption :=
  (List.range' cursor (text.length - cursor)).findSome? (at? text)

theorem next?_bounds {text : List Char} {cursor : Nat} {caption : Caption}
    (h : next? text cursor = some caption) :
    cursor < text.length ∧ cursor < caption.span.stop := by
  obtain ⟨start, hm, hs⟩ := List.exists_of_findSome?_eq_some h
  have := List.mem_range'_1.mp hm
  simp only [at?, Option.ite_none_right_eq_some, Option.map_eq_some_iff] at hs
  obtain ⟨_, _, _, rfl⟩ := hs
  dsimp only
  omega

def captionsFrom (text : List Char) (cursor : Nat) : List Caption :=
  match _ : next? text cursor with
  | none         => []
  | some caption => caption :: captionsFrom text caption.span.stop
termination_by text.length - cursor
decreasing_by
  have := next?_bounds ‹next? text cursor = some caption›
  omega

def captions (text : List Char) : List Caption :=
  captionsFrom text 0

theorem content?_eq (text : List Char) (inner : Nat) :
    content? text inner
      = if isAt (· == '\x7d') text (runEnd isContent text inner) then
          some ((text.drop inner).takeWhile isContent)
        else none := by
  simp only [content?, isAt_beq]
  rfl

theorem closing?_brace (text : List Char) (inner : Nat) :
    closing? "\x7d" text inner = (content? text inner).map (inner + ·.length) := by
  have ⟨inside, behind⟩ := runEnd_spec isContent text inner
  have inner_le : inner ≤ runEnd isContent text inner := le_runEnd
  have stands (q : Nat) :
      "\x7d".toList.isPrefixOf (text.drop q) = isAt (· == '\x7d') text q := by
    rw [Bool.eq_iff_iff, isAt_beq, List.isPrefixOf_iff_prefix]
    simpa using @prefix_drop_iff '\x7d' text.toArray [] q
  have unclosed (q : Nat) (hq : inner ≤ q) (hs : q < runEnd isContent text inner) :
      isAt (· == '\x7d') text q = false :=
    not_isAt (fun {c} hc => by simp_all [isContent]) (inside q hq hs)
  rw [content?_eq, closing?]
  split
  case isTrue closed =>
    have onLine : runEnd isContent text inner ≤ runEnd (· != '\n') text inner :=
      runEnd_mono fun {c} hc => by simp_all [isContent]
    rw [Option.map_some, List.find?_range'_eq_some]
    refine ⟨stands _ ▸ closed, List.mem_range'_1.mpr ⟨inner_le, ?_⟩, fun q hq hs => ?_⟩
    · change runEnd isContent text inner < _
      omega
    · rw [stands, unclosed q hq hs]
      rfl
  case isFalse closed =>
    -- What ends the content is no brace, so it ends the line.
    have lineEnd : isAt (· != '\n') text (runEnd isContent text inner) = false := by
      simp only [isAt] at behind closed ⊢
      cases hc : text[runEnd isContent text inner]? <;> simp_all [isContent]
    have ends := runEnd_le inner_le lineEnd
    rw [Option.map_none, List.find?_range'_eq_none]
    intro q hq hs
    rw [stands, Bool.not_eq_true']
    obtain he | hlt := Nat.eq_or_lt_of_le (show q ≤ runEnd isContent text inner by omega)
    · exact he ▸ Bool.eq_false_iff.mpr closed
    · exact unclosed q hq hlt

theorem slice_content {text content : List Char} {inner : Nat}
    (h : content? text inner = some content) :
    (Span.mk inner (inner + content.length)).slice text.toArray = content := by
  rw [content?_eq, Option.ite_none_right_eq_some, Option.some.injEq] at h
  have initial : content <+: text.drop inner := h.2 ▸ List.takeWhile_prefix _
  simpa [Span.slice, List.extract_eq_take_drop] using (List.prefix_iff_eq_take.mp initial).symm

theorem ofFinding_matchAt? (text : List Char) (pos : Nat) :
    (pattern.matchAt? text.toArray pos fun _ => true).map (ofFinding text.toArray)
      = at? text pos := by
  have found : pattern.matchAt? text.toArray pos (fun _ => true) = _ :=
    matchAt?_delimited "\\caption\x7b" "\x7d" text.toArray pos
  have length : "\\caption\x7b".length = 9 := rfl
  rw [found, at?, length, closing?_brace]
  split
  case isFalse => rfl
  case isTrue =>
    rw [Option.map_map, Option.map_map]
    refine Option.map_congr fun content hc => ?_
    exact congrArg (Caption.mk ⟨pos, pos + 9 + content.length + 1⟩) (slice_content hc)

theorem findAfter_captions (text : List Char) (cursor : Nat) :
    (pattern.findAfter text.toArray cursor).map (ofFinding text.toArray)
      = captionsFrom text cursor := by
  have prompt : pattern.IsPrompt text.toArray := delimited_isPrompt (by decide) "\x7d"
  have next (cursor : Nat) : next? text cursor
      = ((List.range' cursor (text.toArray.size - cursor)).findSome?
          (pattern.matchAt? text.toArray · fun _ => true)).map (ofFinding text.toArray) := by
    rw [List.map_findSome?]
    exact congrArg (List.findSome? · _) (funext fun pos => (ofFinding_matchAt? text pos).symm)
  fun_induction captionsFrom text cursor
  case case1 cursor h =>
    rw [next, Option.map_eq_none_iff] at h
    rw [prompt.findAfter_eq, h]
    rfl
  case case2 cursor caption h ih =>
    rw [next, Option.map_eq_some_iff] at h
    obtain ⟨f, hf, rfl⟩ := h
    rw [prompt.findAfter_eq, hf, ← ih]
    rfl

def IsRepeat (captions : List Caption) (i : Fin captions.length) : Prop :=
  ∃ j < i, (captions.get j).content = (captions.get i).content

instance (captions : List Caption) : DecidablePred (IsRepeat captions) := fun i =>
  inferInstanceAs (Decidable (∃ j < i, (captions.get j).content = (captions.get i).content))

def repeated (captions : List Caption) : List Caption :=
  ((List.finRange captions.length).filter (IsRepeat captions ·)).map captions.get

theorem isRepeat_succ_iff (caption : Caption) (captions : List Caption)
    (i : Fin captions.length) :
    IsRepeat (caption :: captions) i.succ
      ↔ caption.content = (captions.get i).content ∨ IsRepeat captions i := by
  simp [IsRepeat, Fin.exists_fin_succ]

theorem not_isRepeat_iff (captions : List Caption) (i : Fin captions.length) :
    ¬IsRepeat captions i
      ↔ (captions.map (·.content)).idxOf (captions.get i).content = i := by
  have bound : i.val < (captions.map (·.content)).length := by simp
  rw [List.idxOf, List.findIdx_eq bound]
  simp only [IsRepeat, not_exists, not_and, List.getElem_map, beq_eq_false_iff_ne]
  constructor
  case mp  => exact fun first => ⟨beq_self_eq_true _, fun j hj => first ⟨j, by omega⟩ hj⟩
  case mpr => exact fun ⟨_, first⟩ j hj => first j hj

-- What was seen before counts as earlier.
theorem repeats_eq (seen : List (List Char)) (captions : List Caption) :
    repeats seen captions
      = ((List.finRange captions.length).filter fun i =>
          (captions.get i).content ∈ seen ∨ IsRepeat captions i).map captions.get := by
  induction captions generalizing seen
  case nil => rfl
  case cons caption captions ih =>
    have first : ¬IsRepeat (caption :: captions) 0 := by simp [IsRepeat]
    have later : (caption :: captions).get ∘ Fin.succ = captions.get := rfl
    have places : List.finRange (caption :: captions).length
        = 0 :: (List.finRange captions.length).map Fin.succ := List.finRange_succ
    rw [repeats, places, List.filter_cons, List.filter_map]
    simp only [List.contains_eq_mem, decide_eq_true_eq, first, or_false, List.get_cons_zero]
    split
    case isTrue hs =>
      rw [List.map_cons, List.map_map, later, ih seen]
      refine congrArg (caption :: List.map captions.get ·) ?_
      refine List.filter_congr fun i _ => decide_eq_decide.mpr ?_
      have again (he : caption.content = (captions.get i).content) :
          (captions.get i).content ∈ seen := he ▸ hs
      rw [List.get_cons_succ', isRepeat_succ_iff]
      tauto
    case isFalse hs =>
      rw [List.map_map, later, ih]
      refine congrArg (List.map captions.get) ?_
      refine List.filter_congr fun i _ => decide_eq_decide.mpr ?_
      rw [List.get_cons_succ', isRepeat_succ_iff, List.mem_cons, @eq_comm _ caption.content]
      tauto

theorem length_repeats (seen : List (List Char)) (captions : List Caption) :
    (repeats seen captions).length
      + ((captions.map (·.content)).toFinset \ seen.toFinset).card = captions.length := by
  induction captions generalizing seen
  case nil => simp [repeats]
  case cons caption captions ih =>
    rw [repeats, List.map_cons, List.toFinset_cons]
    split
    case isTrue hs =>
      rw [Finset.insert_sdiff_of_mem _ (by simpa using hs), List.length_cons, List.length_cons]
      have := ih seen
      omega
    case isFalse hs =>
      have rest := ih (caption.content :: seen)
      have one := Finset.card_erase_add_one <| Finset.mem_insert_self caption.content
        ((captions.map (·.content)).toFinset \ seen.toFinset)
      rw [List.toFinset_cons, Finset.sdiff_insert] at rest
      rw [Finset.erase_insert_eq_erase] at one
      rw [Finset.insert_sdiff_of_notMem _ (by simpa using hs), List.length_cons]
      omega

theorem repeats_eq_repeated (captions : List Caption) :
    repeats [] captions = repeated captions := by
  simp [repeats_eq, repeated]

theorem repeated_sublist (captions : List Caption) : (repeated captions).Sublist captions := by
  have kept : ((List.finRange captions.length).filter (IsRepeat captions ·)).Sublist
      (List.finRange captions.length) := List.filter_sublist
  have kept := kept.map captions.get
  rwa [List.map_get_finRange] at kept

theorem findAll_eq_captions (text : List Char) : findAll text.toArray = captions text := by
  rw [findAll, findAll_eq_findAfter]
  exact findAfter_captions text 0

theorem captions_ordered (text : List Char) :
    (captions text).Pairwise fun a b => a.span.stop ≤ b.span.start := by
  have ordered := (pattern.findAll_isScan text.toArray).ordered
  rw [← findAll_eq_captions, findAll, List.pairwise_map]
  exact (List.pairwise_map.mp ordered).imp And.left

def remark (caption : Caption) : Diagnostic where
  rule    := "duplicate_caption"
  message := "重複したキャプション: \"" ++ String.ofList caption.content ++ "\""
  start   := caption.span.start
  stop    := caption.span.stop

theorem check_eq_remark (text : List Char) :
    check text.toArray = (repeated (captions text)).map remark := by
  rw [check, findAll_eq_captions, repeats_eq_repeated]
  rfl

end Caption

open Caption in
theorem Document.pass_captions (text : String) :
    let captions := captions text.toList
    let contents := captions.map (·.content)
    let reported := (pass text).diagnostics.filter (·.rule == "duplicate_caption")
    reported = (repeated captions).map remark ∧
      (∀ i, ¬IsRepeat captions i ↔ contents.idxOf (captions.get i).content = i) ∧
      reported.length + contents.toFinset.card = captions.length ∧
      reported.Pairwise fun a b => a.stop ≤ b.start := by
  intro captions contents reported
  have said : reported = (repeated captions).map remark :=
    (filter_caption_check text).trans (check_eq_remark text.toList)
  refine ⟨said, not_isRepeat_iff captions, ?counts, ?order⟩
  case counts =>
    have counted := length_repeats [] captions
    rwa [List.toFinset_nil, Finset.sdiff_empty, repeats_eq_repeated, ← List.length_map remark,
      ← said] at counted
  case order =>
    rw [said, List.pairwise_map]
    refine ((captions_ordered text.toList).sublist (repeated_sublist captions)).imp fun h => ?_
    exact Int.ofNat_le.mpr h

-- The opener inside a caption is content, and the one whose line ends first is none at all.
example :
    let nested := "\\caption\x7b\\caption\x7b\x7d"
    (Document.pass (nested ++ "\\caption\x7b\n\x7d" ++ nested)).diagnostics
      = [⟨"duplicate_caption", "重複したキャプション: \"\\caption\x7b\"", 30, 49⟩] := by
  decide +kernel

end Proofread
