import Mathlib.Data.List.DropRight
import TailView.Proofs.Lines

/-!
# Lines of bytes are lines of text

A line buffer cuts bytes at newlines, takes a carriage return off each piece and decodes what is
left.  Decoding all bytes first and cutting the text gives the same lines, however the bytes are cut
into chunks and whatever in them is no valid character.  So a text that was written line by line
arrives line by line.
-/

namespace TailView
namespace Text

/-! ## Pieces -/

section Pieces

variable {α : Type} [DecidableEq α] {c : α}

/-- A list without its last item, if that is a given one. -/
def dropFinal (x : α) (xs : List α) : List α :=
  if xs.getLast? = some x then xs.dropLast else xs

theorem dropFinal_append (x : α) (xs : List α) : dropFinal x (xs ++ [x]) = xs := by
  rw [dropFinal, List.getLast?_concat, if_pos rfl, List.dropLast_concat]

theorem dropFinal_of_ne {x : α} {xs : List α} (other : xs.getLast? ≠ some x) :
    dropFinal x xs = xs :=
  if_neg other

omit [DecidableEq α] in
theorem intercalate_cons_cons (c : α) (part next : List α) (others : List (List α)) :
    [c].intercalate (part :: next :: others) = part ++ c :: [c].intercalate (next :: others) := by
  simp [List.intercalate]

/-- Pieces without the separator, joined around it, are the pieces of what they are joined to. -/
theorem pieces_intercalate
    {parts : List (List α)}
    (nonempty : parts ≠ [])
    (absent : ∀ part ∈ parts, c ∉ part) :
    pieces c ([c].intercalate parts) = parts := by
  induction parts with
  | nil => exact absurd rfl nonempty
  | cons part rest inductionHypothesis =>
      rw [List.forall_mem_cons] at absent
      cases rest with
      | nil => simpa [List.intercalate] using pieces_of_not_mem absent.1
      | cons next others =>
          rw [intercalate_cons_cons, pieces_append, pieces_of_not_mem absent.1,
            inductionHypothesis (List.cons_ne_nil _ _) absent.2]
          rfl

/-- The last piece is what follows the last separator. -/
theorem exists_pieces_eq (c : α) (xs : List α) :
    ∃ complete, pieces c xs = complete ++ [xs.rtakeWhile (· ≠ c)] := by
  have absent : c ∉ xs.rtakeWhile (· ≠ c) := by
    intro member
    simpa using List.mem_rtakeWhile_imp member
  have parts : xs.rdropWhile (· ≠ c) ++ xs.rtakeWhile (· ≠ c) = xs :=
    List.rdropWhile_append_rtakeWhile
  by_cases nothing : xs.rdropWhile (· ≠ c) = []
  · rw [nothing, List.nil_append] at parts
    refine ⟨[], ?_⟩
    nth_rewrite 1 [← parts]
    exact pieces_of_not_mem absent
  · have separates : (xs.rdropWhile (· ≠ c)).getLast nothing = c := by
      simpa using List.rdropWhile_last_not (· ≠ c) xs nothing
    have before := List.dropLast_concat_getLast nothing
    rw [separates] at before
    refine ⟨pieces c (xs.rdropWhile (· ≠ c)).dropLast, ?_⟩
    nth_rewrite 1 [← parts]
    rw [← before, List.append_assoc, List.singleton_append, pieces_append,
      pieces_of_not_mem absent, before]

end Pieces

/-! ## Decoded pieces -/

namespace Utf8

/-- Decoding joined pieces is joining decoded pieces. -/
theorem decode_intercalate (parts : List (List UInt8)) :
    decode ([10].intercalate parts) = ['\n'].intercalate (parts.map decode) := by
  induction parts with
  | nil => rfl
  | cons part rest inductionHypothesis =>
      cases rest with
      | nil => simp [List.intercalate]
      | cons next others =>
          rw [intercalate_cons_cons, decode_append_ascii (by decide), inductionHypothesis]
          exact (intercalate_cons_cons '\n' (decode part) (decode next) (others.map decode)).symm

/-- The lines of the text are the texts of the pieces between newline bytes. -/
theorem pieces_decode (bytes : List UInt8) :
    pieces '\n' (decode bytes) = (pieces 10 bytes).map decode := by
  have absent : ∀ part ∈ (pieces 10 bytes).map decode, '\n' ∉ part := by
    rw [List.forall_mem_map]
    intro part isPiece member
    exact not_mem_of_mem_pieces isPiece ((lossy_decode part).mem_of_ascii member (by decide))
  have nonempty : (pieces 10 bytes).map decode ≠ [] :=
    List.map_eq_nil_iff.not.mpr (pieces_ne_nil 10 bytes)
  nth_rewrite 1 [← intercalate_pieces 10 bytes]
  rw [decode_intercalate, pieces_intercalate nonempty absent]

/-- A carriage return at the end can be taken off before decoding or after it. -/
theorem decode_dropFinal (raw : List UInt8) :
    decode (dropFinal 13 raw) = dropFinal '\r' (decode raw) := by
  by_cases last : raw.getLast? = some 13
  · obtain ⟨before, rfl⟩ := List.getLast?_eq_some_iff.mp last
    rw [dropFinal_append, decode_append_ascii (by decide)]
    exact (dropFinal_append '\r' (decode before)).symm
  · rw [dropFinal_of_ne last, dropFinal_of_ne]
    intro ends
    exact last ((lossy_decode raw).getLast?_eq ends (by decide))

end Utf8
end Text

namespace LineBuffer

variable {buffer : LineBuffer} {byte : UInt8} {bytes rest : List UInt8}

/-! ## Chunks -/

/-- Chunks that come in one after the other: the buffer after them and the lines that they
complete. -/
def feedAll (buffer : LineBuffer) : List (List UInt8) → LineBuffer × List String
  | [] => (buffer, [])
  | chunk :: rest =>
      (((buffer.feed chunk).1.feedAll rest).1,
        (buffer.feed chunk).2 ++ ((buffer.feed chunk).1.feedAll rest).2)

/-- The cuts between chunks make no difference. -/
theorem feedAll_eq (buffer : LineBuffer) (chunks : List (List UInt8)) :
    buffer.feedAll chunks = buffer.feed chunks.flatten := by
  induction chunks generalizing buffer with
  | nil => rfl
  | cons chunk rest inductionHypothesis =>
      rw [List.flatten_cons, feed_append, feedAll, inductionHypothesis]

theorem feed_newline (buffer : LineBuffer) (rest : List UInt8) :
    buffer.feed (newline :: rest) =
      ((empty.feed rest).1, lineOfReversed buffer.reversed :: (empty.feed rest).2) := by
  rw [feed, push, if_pos rfl]

theorem feed_of_ne (other : byte ≠ newline) :
    buffer.feed (byte :: rest) = feed ⟨byte :: buffer.reversed⟩ rest := by
  rw [feed, push, if_neg other]

/-! ## Lines of bytes -/

/-- The text of a line given by its bytes. -/
def lineOf (raw : List UInt8) : String :=
  Text.Utf8.decodeString (Text.dropFinal carriageReturn raw)

theorem lineOfReversed_eq (reversed : List UInt8) :
    lineOfReversed reversed = lineOf reversed.reverse := by
  cases reversed with
  | nil => rfl
  | cons last rest =>
      rw [lineOfReversed, lineOf, List.reverse_cons]
      by_cases isReturn : last = carriageReturn
      · rw [if_pos isReturn, isReturn, Text.dropFinal_append]
      · rw [if_neg isReturn, Text.dropFinal_of_ne]
        rw [List.getLast?_concat]
        exact fun same => isReturn (Option.some.inj same)

theorem lineOf_eq (raw : List UInt8) :
    lineOf raw = String.ofList (Text.dropFinal '\r' (Text.Utf8.decode raw)) := by
  rw [← Text.Utf8.decode_dropFinal]
  rfl

theorem toList_flush (buffer : LineBuffer) :
    buffer.flush.toList = if buffer.pending = [] then [] else [lineOf buffer.pending] := by
  obtain ⟨reversed⟩ := buffer
  cases reversed with
  | nil => rfl
  | cons last rest =>
      have nonempty : pending ⟨last :: rest⟩ ≠ [] := by simp [pending]
      rw [if_neg nonempty]
      exact congrArg (fun line => [line]) (lineOfReversed_eq (last :: rest))

theorem Clean.newline_not_mem_pending (clean : buffer.Clean) : newline ∉ buffer.pending :=
  List.mem_reverse.not.mpr clean

theorem empty_clean : empty.Clean := List.not_mem_nil

/-- The pieces of the bytes between newlines are the lines that are handed out and the bytes that
wait. -/
theorem exists_pieces_feed (clean : buffer.Clean) (bytes : List UInt8) :
    ∃ complete,
      Text.pieces newline (buffer.pending ++ bytes) = complete ++ [(buffer.feed bytes).1.pending] ∧
        (buffer.feed bytes).2 = complete.map lineOf := by
  induction bytes generalizing buffer with
  | nil =>
      refine ⟨[], ?_, rfl⟩
      rw [List.append_nil, Text.pieces_of_not_mem clean.newline_not_mem_pending]
      rfl
  | cons byte rest inductionHypothesis =>
      by_cases ends : byte = newline
      · obtain ⟨complete, same, lines⟩ := inductionHypothesis empty_clean
        refine ⟨buffer.pending :: complete, ?_, ?_⟩
        · rw [ends, Text.pieces_append, Text.pieces_of_not_mem clean.newline_not_mem_pending,
            feed_newline]
          exact congrArg (buffer.pending :: ·) same
        · rw [ends, feed_newline, lines, lineOfReversed_eq]
          rfl
      · have cleanNext : Clean ⟨byte :: buffer.reversed⟩ := by
          unfold Clean
          rw [List.mem_cons, not_or]
          exact ⟨Ne.symm ends, clean⟩
        obtain ⟨complete, same, lines⟩ := inductionHypothesis cleanNext
        refine ⟨complete, ?_, ?_⟩
        · rw [feed_of_ne ends, ← same, pending, pending, List.reverse_cons, List.append_assoc,
            List.singleton_append]
        · rw [feed_of_ne ends, lines]

theorem eq_empty_of_pending (nothing : buffer.pending = []) : buffer = empty := by
  obtain ⟨reversed⟩ := buffer
  exact congrArg LineBuffer.mk (List.reverse_eq_nil_iff.mp nothing)

/-- What waits is what came after the last newline. -/
theorem pending_feed (bytes : List UInt8) :
    (empty.feed bytes).1.pending = bytes.rtakeWhile (· ≠ newline) := by
  obtain ⟨complete, same, -⟩ := exists_pieces_feed empty_clean bytes
  obtain ⟨others, sameBytes⟩ := Text.exists_pieces_eq newline bytes
  have sameEnd := (sameBytes.symm.trans same).symm
  exact List.singleton_inj.mp (List.append_inj' sameEnd rfl).2

/-- Nothing waits if nothing came in or a newline came last. -/
theorem rtakeWhile_eq_nil_iff_getLast? :
    bytes.rtakeWhile (· ≠ newline) = [] ↔ bytes = [] ∨ bytes.getLast? = some newline := by
  induction bytes using List.reverseRecOn with
  | nil => simp
  | append_singleton before byte _ => simp [List.rtakeWhile_concat]

/-- However the bytes of a log are cut into chunks, the lines that are handed out are those of the
text of all the bytes, without the carriage returns at their ends, and what waits is what came after
the last newline. -/
theorem feedAll_eq_lines_of_text (chunks : List (List UInt8)) :
    let bytes := chunks.flatten
    let text := Text.Utf8.decode bytes
    (∀ cs, Text.Utf8.Lossy bytes cs ↔ cs = text) ∧
      (empty.feedAll chunks).2 ++ (empty.feedAll chunks).1.flush.toList =
        (if bytes = [] ∨ bytes.getLast? = some newline then (Text.pieces '\n' text).dropLast
          else Text.pieces '\n' text).map
            (fun piece => String.ofList (Text.dropFinal '\r' piece)) ∧
      ∀ count,
        (empty.feedAll (chunks.take count)).1.pending =
            (chunks.take count).flatten.rtakeWhile (· ≠ newline) ∧
          newline ∉ (empty.feedAll (chunks.take count)).1.pending := by
  intro bytes text
  refine ⟨fun cs => Text.Utf8.lossy_iff, ?_, ?_⟩
  · obtain ⟨complete, same, lines⟩ := exists_pieces_feed empty_clean bytes
    have textPieces : Text.pieces '\n' text =
        complete.map Text.Utf8.decode ++ [Text.Utf8.decode (empty.feed bytes).1.pending] := by
      rw [Text.Utf8.pieces_decode]
      exact (congrArg (List.map Text.Utf8.decode) same).trans List.map_append
    have completeLines : complete.map lineOf = (complete.map Text.Utf8.decode).map
        (fun piece => String.ofList (Text.dropFinal '\r' piece)) := by
      rw [List.map_map]
      exact List.map_congr_left fun raw _ => lineOf_eq raw
    rw [feedAll_eq, lines, toList_flush, textPieces, completeLines, pending_feed]
    by_cases nothing : bytes.rtakeWhile (· ≠ newline) = []
    · rw [if_pos nothing, if_pos (rtakeWhile_eq_nil_iff_getLast?.mp nothing), List.append_nil,
        List.dropLast_concat]
    · rw [if_neg nothing, if_neg (rtakeWhile_eq_nil_iff_getLast?.not.mp nothing), lineOf_eq,
        List.map_append]
      rfl
  · intro count
    rw [feedAll_eq]
    exact ⟨pending_feed _, (feed_clean empty_clean _).1.newline_not_mem_pending⟩

/-- A character that breaks off before the end of its line is replaced, and the carriage return
after it belongs to the line end. -/
example :
    empty.feedAll [[0x61, 0xE2], [0x82, 0x0D], [0x0A, 0xE2, 0x82]] =
      (⟨[0x82, 0xE2]⟩, ["a\uFFFD"]) := by
  decide +kernel

end LineBuffer

/-! ## Lines that were written -/

/-- A line as it is written: its text and how it ends. -/
structure WrittenLine where
  /-- The text. -/
  text : String
  /-- Whether a carriage return stands before the newline. -/
  withReturn : Bool
  /-- The text is a single line. -/
  isLine : '\n' ∉ text.toList
  /-- A carriage return that belongs to the text is not the last one before the newline. -/
  unambiguous : withReturn = false → text.toList.getLast? ≠ some '\r'

namespace WrittenLine

/-- The bytes before the newline. -/
def raw (line : WrittenLine) : List UInt8 :=
  Text.Utf8.encodeString line.text ++ if line.withReturn then [LineBuffer.carriageReturn] else []

/-- The bytes of the line. -/
def bytes (line : WrittenLine) : List UInt8 := line.raw ++ [LineBuffer.newline]

theorem newline_not_mem_raw (line : WrittenLine) : LineBuffer.newline ∉ line.raw := by
  rw [raw, List.mem_append, not_or]
  refine ⟨?_, ?_⟩
  · intro member
    obtain ⟨c, isChar, inside⟩ := List.mem_flatMap.mp member
    have same : c = '\n' := Text.Utf8.eq_ofNat_of_mem_encodeChar inside (by decide)
    exact line.isLine (same ▸ isChar)
  · split <;> decide

/-- The line that a line buffer makes of the bytes is the text. -/
theorem lineOf_raw (line : WrittenLine) : LineBuffer.lineOf line.raw = line.text := by
  have decoded : Text.Utf8.decode (Text.Utf8.encodeString line.text) = line.text.toList :=
    Text.Utf8.decode_encode line.text.toList
  have dropped : Text.dropFinal '\r' (Text.Utf8.decode line.raw) = line.text.toList := by
    rw [raw]
    cases withReturn : line.withReturn with
    | true =>
        rw [if_pos rfl, Text.Utf8.decode_append_ascii (by decide), decoded]
        exact Text.dropFinal_append '\r' line.text.toList
    | false =>
        rw [if_neg Bool.false_ne_true, List.append_nil, decoded]
        exact Text.dropFinal_of_ne (line.unambiguous withReturn)
  rw [LineBuffer.lineOf_eq, dropped, String.ofList_toList]

/-- The pieces between the newlines are the lines, and nothing follows the last newline. -/
theorem pieces_flatMap_bytes (lines : List WrittenLine) :
    Text.pieces LineBuffer.newline (lines.flatMap bytes) = lines.map raw ++ [[]] := by
  induction lines with
  | nil => rfl
  | cons line rest inductionHypothesis =>
      rw [List.flatMap_cons, bytes, List.append_assoc, List.singleton_append, Text.pieces_append,
        Text.pieces_of_not_mem line.newline_not_mem_raw, inductionHypothesis]
      rfl

/-- However the bytes of written lines are cut into chunks, the lines arrive, and nothing waits. -/
theorem feedAll_written
    {lines : List WrittenLine}
    {chunks : List (List UInt8)}
    {buffer : LineBuffer}
    (cut : chunks.flatten = lines.flatMap bytes)
    (nothingWaits : buffer.pending = []) :
    buffer.feedAll chunks = (LineBuffer.empty, lines.map text) := by
  obtain rfl : buffer = LineBuffer.empty := LineBuffer.eq_empty_of_pending nothingWaits
  obtain ⟨complete, same, handedOut⟩ :=
    LineBuffer.exists_pieces_feed LineBuffer.empty_clean (lines.flatMap bytes)
  have written : lines.map raw ++ [[]] =
      complete ++ [(LineBuffer.empty.feed (lines.flatMap bytes)).1.pending] :=
    (pieces_flatMap_bytes lines).symm.trans same
  obtain ⟨rfl, sameEnd⟩ := List.append_inj' written rfl
  have nothing := LineBuffer.eq_empty_of_pending (List.singleton_inj.mp sameEnd).symm
  rw [LineBuffer.feedAll_eq, cut]
  refine Prod.ext nothing ?_
  rw [handedOut, List.map_map]
  exact List.map_congr_left fun line _ => line.lineOf_raw

/-- Lines that end in different ways; the first one ends in a carriage return of its own. -/
def mixedLines : List WrittenLine :=
  [⟨"größe\r", true, by decide, by decide⟩, ⟨"", false, by decide, by decide⟩,
    ⟨"😀", false, by decide, by decide⟩]

/-- Cuts inside characters and between the carriage return and the newline. -/
theorem feedAll_written_mixedLines :
    let chunks : List (List UInt8) :=
      [[0x67, 0x72, 0xC3], [0xB6, 0xC3, 0x9F, 0x65, 0x0D, 0x0D], [], [0x0A, 0x0A, 0xF0],
        [0x9F, 0x98, 0x80, 0x0A]]
    chunks.flatten = mixedLines.flatMap bytes ∧ LineBuffer.empty.pending = [] ∧
      LineBuffer.empty.feedAll chunks = (LineBuffer.empty, ["größe\r", "", "😀"]) := by
  intro chunks
  have cut : chunks.flatten = mixedLines.flatMap bytes := by decide +kernel
  exact ⟨cut, rfl, feedAll_written cut rfl⟩

end WrittenLine
end TailView
