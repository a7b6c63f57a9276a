import Proofread.Dictionary.Load
import Proofread.Proofs.Json.ReadBack
import Proofread.Proofs.Text.Utf8

namespace Proofread.Dictionary

namespace Pair

def row (pair : Pair) : Row :=
  .list [.string pair.incorrect, .string pair.correct]

def toJson (pair : Pair) : Json :=
  .object [("incorrect", .string pair.incorrect), ("correct", .string pair.correct)]

theorem row_pair (pair : Pair) : pair.row.pair = .ok pair :=
  rfl

theorem ofJson_toJson (pair : Pair) : ofJson pair.toJson = .ok pair :=
  rfl

theorem toJson_textual (pair : Pair) : pair.toJson.Textual := by
  refine .object (by simp) fun member h => ?_
  simp only [List.mem_cons, List.not_mem_nil, or_false] at h
  rcases h with rfl | rfl <;> exact .string _

end Pair

def document (pairs : List Pair) : Json :=
  .array (pairs.map Pair.toJson)

theorem document_textual (pairs : List Pair) : (document pairs).Textual := by
  refine .array fun item h => ?_
  have ⟨pair, _, hp⟩ := List.mem_map.mp h
  exact hp ▸ pair.toJson_textual

theorem ofPairs_eq_ofRows (pairs : List Pair) : ofPairs pairs = ofRows (pairs.map Pair.row) := by
  induction pairs
  case nil => rfl
  case cons pair pairs ih =>
    rw [ofPairs, List.map_cons, ofRows, ← ih, Row.entry, Pair.row_pair]
    rfl

theorem ofJson_document (pairs : List Pair) : ofJson (document pairs) = ofPairs pairs := by
  have each (items : List Pair) (index : Nat) :
      Validation.checkItems.go Pair.ofJson index (items.map Pair.toJson) = .ok items := by
    induction items generalizing index
    case nil => rfl
    case cons pair items ih =>
      rw [List.map_cons, Validation.checkItems.go, ih, Pair.ofJson_toJson]
      rfl
  rw [document, ofJson, Validation.checkItems, each]

def Entry.pair (entry : Entry) : Pair :=
  ⟨entry.incorrect, entry.correct⟩

theorem Entry.ofPair_pair {pair : Pair} {entry : Entry} (h : Entry.ofPair pair = .ok entry) :
    entry.pair = pair := by
  unfold Entry.ofPair at h
  split at h <;> cases h
  rfl

theorem ofPairs_pair {pairs : List Pair} {dictionary : Dictionary}
    (h : ofPairs pairs = .ok dictionary) : dictionary.map Entry.pair = pairs := by
  induction pairs generalizing dictionary
  case nil => cases h; rfl
  case cons pair pairs ih =>
    rw [ofPairs] at h
    cases he : Entry.ofPair pair
    case error => simp [he, bind, Except.bind] at h
    case ok entry =>
      cases hd : ofPairs pairs
      case error => simp [he, hd, bind, Except.bind] at h
      case ok entries =>
        simp only [he, hd, bind, Except.bind, pure, Except.pure, Except.ok.injEq] at h
        rw [← h, List.map_cons, Entry.ofPair_pair he, ih hd]

-- Other line ends are other blanks, as no token has a line end inside it.
theorem ofContent_written {charset : Json.Charset} {pairs : List Pair} {text : List Char}
    (spaced : Json.Spaced (Json.tokens charset (document pairs)) text) :
    ofContent (Text.Utf8.encode text) = (ofPairs pairs).mapError .badRows := by
  have textual := document_textual pairs
  have read := textual.ofText? (spaced.unifyNewlines textual.isToken)
  rw [ofContent, Text.Utf8.decode_encode]
  change (Json.ofText? (Text.unifyNewlines text)).mapError LoadError.notJson
    >>= (fun value => (ofJson value).mapError LoadError.badRows) = _
  rw [read]
  change (ofJson (document pairs)).mapError LoadError.badRows = _
  rw [ofJson_document]

theorem load_stored {store : Files.Store} {path : Files.Path} {content : Files.Content}
    (h : store.read path = .ok content) :
    load store path = (ofContent content).map fun dictionary =>
      ⟨dictionary, [.dictionaryLoaded dictionary.length path.toString]⟩ := by
  rw [load, h]
  change ofContent content >>= (fun dictionary =>
    pure (Loaded.mk dictionary [.dictionaryLoaded dictionary.length path.toString])) = _
  cases ofContent content <;> rfl

theorem load_written {charset : Json.Charset} {pairs : List Pair} {text : List Char}
    {store : Files.Store} {path : Files.Path}
    (spaced : Json.Spaced (Json.tokens charset (document pairs)) text)
    (stored : store.read path = .ok (Text.Utf8.encode text)) :
    (∀ dictionary, ofRows (pairs.map Pair.row) = .ok dictionary →
      load store path = .ok ⟨dictionary, [.dictionaryLoaded pairs.length path.toString]⟩ ∧
        dictionary.map Entry.pair = pairs) ∧
    (∀ error, ofRows (pairs.map Pair.row) = .error error →
      load store path = .error (.badRows error)) := by
  rw [← ofPairs_eq_ofRows, load_stored stored, ofContent_written spaced]
  constructor
  · intro dictionary h
    have same := ofPairs_pair h
    have length : dictionary.length = pairs.length := by rw [← same, List.length_map]
    exact ⟨by rw [h, ← length]; rfl, same⟩
  · intro error h
    rw [h]
    rfl

theorem load_written_crlf :
    let pair : Pair := ⟨"a\r\n", "𝕏\""⟩
    let text :=
      "[\r\n\x7b\"incorrect\":\r\"a\\r\\n\",\"correct\":\"\\ud835\\udd4f\\\"\"\x7d]\r".toList
    let path : Files.Path := ⟨.none, ["d.json"]⟩
    let store := Files.Store.empty.write path (Text.Utf8.encode text)
    Json.Spaced (Json.tokens .ascii (document [pair])) text ∧
      store.read path = .ok (Text.Utf8.encode text) ∧
      load store path
        = .ok ⟨[⟨"a\r\n", "𝕏\"", .literal "a\r\n"⟩], [.dictionaryLoaded 1 "d.json"]⟩ := by
  intro pair text path store
  have tokens : Json.tokens .ascii (document [pair]) =
      ["[".toList, "\x7b".toList, "\"incorrect\"".toList, ":".toList, "\"a\\r\\n\"".toList,
        ",".toList, "\"correct\"".toList, ":".toList, "\"\\ud835\\udd4f\\\"\"".toList,
        "\x7d".toList, "]".toList] := by
    decide +kernel
  have layout : text =
      [] ++ ("[".toList ++ ("\r\n".toList ++ ("\x7b".toList ++ ([] ++ ("\"incorrect\"".toList ++
        ([] ++ (":".toList ++ ("\r".toList ++ ("\"a\\r\\n\"".toList ++ ([] ++ (",".toList ++
        ([] ++ ("\"correct\"".toList ++ ([] ++ (":".toList ++
        ([] ++ ("\"\\ud835\\udd4f\\\"\"".toList ++ ([] ++ ("\x7d".toList ++
        ([] ++ ("]".toList ++ "\r".toList))))))))))))))))))))) := by
    decide +kernel
  have spaced : Json.Spaced (Json.tokens .ascii (document [pair])) text := by
    rw [tokens, layout]
    repeat refine .token (by simp [Json.isBlank]) ?_
    exact .done (by simp [Json.isBlank])
  have stored (content : Files.Content) :
      (Files.Store.empty.write ⟨.none, ["d.json"]⟩ content).read ⟨.none, ["d.json"]⟩
        = .ok content := rfl
  have rows : ofRows [Pair.row ⟨"a\r\n", "𝕏\""⟩]
      = .ok [⟨"a\r\n", "𝕏\"", .literal "a\r\n"⟩] := rfl
  exact ⟨spaced, stored _, ((load_written spaced (stored _)).1 _ rows).1⟩

end Proofread.Dictionary
