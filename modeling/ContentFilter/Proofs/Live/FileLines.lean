import ContentFilter.Proofs.Live.Edits
import ContentFilter.Proofs.Text.LossyDecoding

namespace ContentFilter

/-- Bytes parted by line feeds: the segments that a line feed ends, and what follows the last one. -/
structure ByteLines where
  ended : List (List UInt8)
  last : List UInt8
  ended_whole : ∀ segment ∈ ended, 10 ∉ segment
  last_whole : 10 ∉ last

namespace ByteLines

def joined (ended : List (List UInt8)) (last : List UInt8) : List UInt8 :=
  (ended.map (· ++ [10])).flatten ++ last

def bytes (s : ByteLines) : List UInt8 := joined s.ended s.last

theorem joined_cons (segment : List UInt8) (ended : List (List UInt8)) (last : List UInt8) :
    joined (segment :: ended) last = segment ++ 10 :: joined ended last := by
  simp [joined]

theorem exists_parted (bytes : List UInt8) : ∃ s : ByteLines, s.bytes = bytes := by
  induction bytes with
  | nil => exact ⟨⟨[], [], by simp, by simp⟩, rfl⟩
  | cons b rest ih =>
      obtain ⟨⟨ended, last, ended_whole, last_whole⟩, rfl⟩ := ih
      by_cases feed : b = 10
      · refine ⟨⟨[] :: ended, last, ?_, last_whole⟩, ?_⟩
        · simpa using ended_whole
        · rw [bytes, joined_cons, feed, List.nil_append, bytes]
      · have other : (10 : UInt8) ≠ b := fun same => feed same.symm
        cases ended with
        | nil => exact ⟨⟨[], b :: last, by simp, by simp [other, last_whole]⟩, rfl⟩
        | cons first more =>
            refine ⟨⟨(b :: first) :: more, last, ?_, last_whole⟩, rfl⟩
            simpa [other] using ended_whole

theorem cut_at_feed (front front' back back' : List UInt8) (whole : 10 ∉ front)
    (whole' : 10 ∉ front') (same : front ++ 10 :: back = front' ++ 10 :: back') :
    front = front' ∧ back = back' := by
  induction front generalizing front' with
  | nil =>
      cases front' with
      | nil => exact ⟨rfl, (List.cons.inj same).2⟩
      | cons b front' => exact absurd ((List.cons.inj same).1 ▸ List.mem_cons_self) whole'
  | cons b front ih =>
      cases front' with
      | nil => exact absurd ((List.cons.inj same).1 ▸ List.mem_cons_self) whole
      | cons b' front' =>
          obtain ⟨rfl, rest⟩ := List.cons.inj same
          obtain ⟨rfl, rfl⟩ := ih front' (fun member => whole (List.mem_cons_of_mem b member))
            (fun member => whole' (List.mem_cons_of_mem b member)) rest
          exact ⟨rfl, rfl⟩

theorem joined_inj (ended others : List (List UInt8)) (last other : List UInt8)
    (ended_whole : ∀ segment ∈ ended, 10 ∉ segment) (last_whole : 10 ∉ last)
    (others_whole : ∀ segment ∈ others, 10 ∉ segment) (other_whole : 10 ∉ other)
    (same : joined ended last = joined others other) : ended = others ∧ last = other := by
  induction ended generalizing others with
  | nil =>
      cases others with
      | nil => exact ⟨rfl, same⟩
      | cons segment others =>
          have found : 10 ∈ joined [] last := by simp [same, joined_cons]
          exact absurd found last_whole
  | cons segment ended ih =>
      cases others with
      | nil =>
          have found : 10 ∈ joined [] other := by simp [← same, joined_cons]
          exact absurd found other_whole
      | cons segment' others =>
          simp only [List.forall_mem_cons] at ended_whole others_whole
          rw [joined_cons, joined_cons] at same
          obtain ⟨rfl, rest⟩ := cut_at_feed _ _ _ _ ended_whole.1 others_whole.1 same
          obtain ⟨rfl, rfl⟩ := ih others ended_whole.2 others_whole.2 rest
          exact ⟨rfl, rfl⟩

theorem parted_unique (s t : ByteLines) (same : s.bytes = t.bytes) : s = t := by
  obtain ⟨ended, last, ended_whole, last_whole⟩ := s
  obtain ⟨others, other, others_whole, other_whole⟩ := t
  have ⟨first, second⟩ := joined_inj ended others last other ended_whole last_whole others_whole
    other_whole same
  subst first second
  rfl

def lines (s : ByteLines) : List Text :=
  s.ended.map (fun segment => (Utf8.decodeLossy segment).withoutReturn) ++
    if s.last = [] then [] else [Utf8.decodeLossy s.last]

theorem line_feed_of_lossy (bytes : List UInt8) (text : Text) (stands : Utf8.Lossy bytes text)
    (feed : '\n' ∈ text) : 10 ∈ bytes := by
  induction stands with
  | nil => cases feed
  | char c _ ih =>
      rcases List.mem_cons.mp feed with rfl | later
      · exact List.mem_append_left _ (by decide)
      · exact List.mem_append_right _ (ih later)
  | replaced _ _ ih =>
      rcases List.mem_cons.mp feed with same | later
      · exact absurd same (by decide)
      · exact List.mem_append_right _ (ih later)

theorem single_of_whole (segment : List UInt8) (whole : 10 ∉ segment) :
    '\n' ∉ Utf8.decodeLossy segment := fun feed =>
  whole (line_feed_of_lossy segment _ (Utf8.lossy_decode segment) feed)

theorem decode_ne_nil (bytes : List UInt8) (some_bytes : bytes ≠ []) :
    Utf8.decodeLossy bytes ≠ [] := by
  intro nothing
  have stands := (Utf8.lossy_iff bytes []).mpr nothing
  cases stands
  exact some_bytes rfl

theorem lines_joined (ended : List (List UInt8)) (last : List UInt8)
    (ended_whole : ∀ segment ∈ ended, 10 ∉ segment) (last_whole : 10 ∉ last) :
    linesOf (joined ended last) =
      ended.map (fun segment => (Utf8.decodeLossy segment).withoutReturn) ++
        if last = [] then [] else [Utf8.decodeLossy last] := by
  induction ended with
  | nil =>
      rw [List.map_nil, List.nil_append]
      split
      · rename_i nothing
        rw [nothing]
        rfl
      · rename_i some_bytes
        exact Text.lines_whole _ (single_of_whole last last_whole) (decode_ne_nil last some_bytes)
  | cons segment ended ih =>
      simp only [List.forall_mem_cons] at ended_whole
      have first := Text.lines_ended _ (single_of_whole segment ended_whole.1)
      calc linesOf (joined (segment :: ended) last)
        _ = Text.lines (Utf8.decodeLossy segment ++
              '\n' :: Utf8.decodeLossy (joined ended last)) := by
            rw [joined_cons, linesOf, Utf8.decodeLossy_lineFeed]
        _ = Text.lines (Utf8.decodeLossy segment ++ ['\n']) ++ linesOf (joined ended last) :=
            Text.lines_line_feed _ _
        _ = _ := by
            rw [first, ih ended_whole.2, List.map_cons, List.singleton_append, List.cons_append]

theorem lines_of_bytes (s : ByteLines) : linesOf s.bytes = s.lines :=
  lines_joined s.ended s.last s.ended_whole s.last_whole

theorem line_of_ended (s : ByteLines) (i : Nat) (text : Text)
    (valid : s.ended[i]? = some (text.flatMap String.utf8EncodeChar)) :
    s.lines[i]? = some text.withoutReturn := by
  have read : (s.ended.map fun segment => (Utf8.decodeLossy segment).withoutReturn)[i]? =
      some text.withoutReturn := by
    rw [List.getElem?_map, valid, Option.map_some, Utf8.utf8_eq_encode, Utf8.decodeLossy_encode]
  rw [lines, List.getElem?_append_left (List.getElem?_eq_some_iff.mp read).1, read]

theorem line_of_last (s : ByteLines) (text : Text) (some_text : text ≠ [])
    (valid : s.last = text.flatMap String.utf8EncodeChar) :
    s.lines[s.ended.length]? = some text := by
  have read : Utf8.decodeLossy s.last = text := by
    rw [valid, Utf8.utf8_eq_encode, Utf8.decodeLossy_encode]
  have some_bytes : s.last ≠ [] := by
    intro nothing
    rw [nothing] at read
    exact some_text read.symm
  rw [lines, if_neg some_bytes, read, List.getElem?_append_right (by simp), List.length_map,
    Nat.sub_self, List.getElem?_cons_zero]

end ByteLines

/-- However a file is read its lines are those of the segments of its bytes, each decoded with the
replacement of its invalid parts and no regard to the others. -/
theorem file_lines_parted (files : FileTree) (path : Text) (bytes : List UInt8)
    (read : files.read path = .ok bytes) :
    ∃ s : ByteLines, s.bytes = bytes ∧ (∀ other : ByteLines, other.bytes = bytes → other = s) ∧
      (∀ name optional, (Source.file name path optional).readLines files = .ok s.lines) ∧
      files.readLinesIfAny path = .ok s.lines ∧
      (∀ segment text, Utf8.Lossy segment text ↔ Utf8.decodeLossy segment = text) ∧
      (∀ (i : Nat) (text : Text), s.ended[i]? = some (text.flatMap String.utf8EncodeChar) →
        s.lines[i]? = some text.withoutReturn) ∧
      (∀ text : Text, text ≠ [] → s.last = text.flatMap String.utf8EncodeChar →
        s.lines[s.ended.length]? = some text) := by
  obtain ⟨s, rfl⟩ := ByteLines.exists_parted bytes
  have always : files.readLines path = .ok s.lines :=
    (files.read_lines_ok path _).mpr ⟨_, read, s.lines_of_bytes.symm⟩
  have if_any : files.readLinesIfAny path = .ok s.lines :=
    (files.read_lines_if_any_ok path _).mpr (Or.inl ⟨_, read, s.lines_of_bytes.symm⟩)
  refine ⟨s, rfl, ?_, ?_, if_any, Utf8.lossy_iff, s.line_of_ended, s.line_of_last⟩
  · intro other same
    exact ByteLines.parted_unique other s same
  · intro name optional
    cases optional with
    | false => simp [Source.readLines, always, Except.mapError]
    | true => simp [Source.readLines, if_any, Except.mapError]

def spoiledBytes : List UInt8 :=
  [0x61, 10, 0x62, 0xFF, 0xE2, 0x82, 10, 0xC3, 0xA9, 13, 10, 0xF0, 0x9F]

def spoiledFile : FileTree :=
  (FileTree.emptyAt ["lists".toList]).put ["rules".toList, "lists".toList] (.file spoiledBytes)

theorem spoiled_file_lines :
    spoiledFile.read "/lists/rules".toList = .ok spoiledBytes ∧
      ∃ s : ByteLines, s.bytes = spoiledBytes ∧
        s.lines = ["a".toList, "b\uFFFD\uFFFD".toList, "é".toList, "\uFFFD".toList] := by
  have read : spoiledFile.read "/lists/rules".toList = .ok spoiledBytes := by decide
  have decoded : linesOf spoiledBytes =
      ["a".toList, "b\uFFFD\uFFFD".toList, "é".toList, "\uFFFD".toList] := by decide
  have found := (spoiledFile.read_lines_if_any_ok _ _).mpr (Or.inl ⟨_, read, decoded.symm⟩)
  obtain ⟨s, whole, _, _, lines, _⟩ := file_lines_parted spoiledFile _ spoiledBytes read
  exact ⟨read, s, whole, Except.ok.inj (lines.symm.trans found)⟩

end ContentFilter
