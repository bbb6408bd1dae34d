import GameSource.Proofs.Files.Encoded
import GameSource.Proofs.Files.Opened
import GameSource.Proofs.Text.LineEnds
/-!
# The lines of a file

The text of a file has the lines of the file, each closed by a line feed, whatever they end with in the file and whether
the last one has an end or not (`HasLines.closed`).  So a text that was read is read again as it is, from any file that
holds it in any encoding (`readText_lines`).
-/
namespace GameSource

/-! ## Closing the last line -/

theorem closeLastLine_of_ends {t : Text} (h : t = [] ∨ t.getLast? = some '\n') : closeLastLine t = t := by
  unfold closeLastLine
  rcases h with rfl | h
  · rfl
  · rw [if_pos (by simp [h])]

theorem closeLastLine_append {last : Text} (hne : last ≠ []) (hlast : IsLine last) (t : Text) :
    closeLastLine (t ++ last) = t ++ last ++ ['\n'] := by
  obtain ⟨line, c, rfl⟩ := List.eq_nil_or_concat last |>.resolve_left hne
  rw [List.concat_eq_append] at hlast ⊢
  have hc : c ≠ '\n' := (hlast.ne (by simp)).2
  unfold closeLastLine
  rw [if_neg]
  rw [← List.append_assoc, List.getLast?_concat]
  simpa using hc

theorem mem_of_mem_closeLastLine {c : Char} {t : Text} (h : c ∈ closeLastLine t) : c ∈ t ∨ c = '\n' := by
  unfold closeLastLine at h
  split at h
  · exact .inl h
  · exact (List.mem_append.1 h).imp_right List.mem_singleton.1

/-- **The lines of a text are closed one by one.** -/
theorem HasLines.closed {t : Text} {ls : List Text} (h : HasLines t ls) :
    closeLastLine (unifyLineEnds t) = closeLines ls := by
  obtain ⟨ended, last, hlined, rfl⟩ := h
  rw [hlined.unifyLineEnds_eq]
  by_cases hlast : last = []
  · rw [if_pos hlast, hlast, List.append_nil, List.append_nil]
    exact closeLastLine_of_ends (closeLines_ends _)
  · rw [if_neg hlast, closeLastLine_append hlast hlined.isLine.2, List.append_assoc]
    simp [closeLines]

/-! ## Files -/

theorem Encoding.has_lineFeed (e : Encoding) : e.Has '\n' := by
  cases e with
  | utf8 => trivial
  | latin1 => exact (by decide : '\n'.toNat < 256)
  | ascii => exact (by decide : '\n'.toNat < 128)

/-- In an encoding given here, a file can hold whatever has no characters but those of a text it holds, and line
feeds. -/
theorem FileHolds.exists_holds {disk : Disk} {encoding content t : Text} {p : Path} {e : Encoding}
    (h : FileHolds disk encoding p content) (he : Encoding.ofName? encoding = some e)
    (ht : ∀ c ∈ t, c ∈ content ∨ c = '\n') :
    ∃ bytes, FileHolds { bytes := fun _ => .ok bytes } encoding p t := by
  obtain ⟨hnull, hpath, bytes, -, hdecode⟩ := (fileHolds_iff he).1 h
  have hhas : ∀ c ∈ t, e.Has c := fun c hc => by
    rcases ht c hc with hc | rfl
    · exact exists_decode_iff.1 ⟨bytes, hdecode⟩ c hc
    · exact e.has_lineFeed
  obtain ⟨bytes', hdecode'⟩ := exists_decode_iff.2 hhas
  exact ⟨bytes', (fileHolds_iff he).2 ⟨hnull, hpath, bytes', rfl, hdecode'⟩⟩

/-- **The text of a file has its lines, each closed by one line feed.**  Let the bytes of a file stand for a content in
an encoding, whichever codec decodes them.  Then the file has a text.  No carriage return is in it, it is empty or ends
with a line feed, and its lines are those of the content, one after the other with a line feed behind each.  From every
file that holds this text, in whatever encoding, it is read as it is; and in an encoding given here there are such
files. -/
theorem readText_lines {disk : Disk} {encoding content : Text} {p : Path} (h : FileHolds disk encoding p content)
    (shown : Text) :
    ∃ t ls, readText disk encoding shown p = .ok t ∧ '\r' ∉ t ∧ (t = [] ∨ t.getLast? = some '\n') ∧
      (∀ ls', HasLines content ls' ↔ ls' = ls) ∧ (∀ ls', HasLines t ls' ↔ ls' = ls) ∧ t = closeLines ls ∧
      (∀ e, Encoding.ofName? encoding = some e → ∃ bytes, FileHolds { bytes := fun _ => .ok bytes } encoding p t) ∧
      ∀ disk' encoding' p', FileHolds disk' encoding' p' t → ∀ shown', readText disk' encoding' shown' p' = .ok t := by
  obtain ⟨ls, hls⟩ := exists_hasLines content
  have hclosed : HasLines (closeLines ls) ls := hasLines_closeLines hls.isLine
  have hreturn : '\r' ∉ closeLines ls := fun hmem => by
    rcases mem_of_mem_closeLastLine (hls.closed ▸ hmem) with hmem | heq
    · exact not_mem_unifyLineEnds content hmem
    · exact absurd heq (by decide)
  have hwithin : ∀ c ∈ closeLines ls, c ∈ content ∨ c = '\n' := fun c hc => by
    rcases mem_of_mem_closeLastLine (hls.closed ▸ hc) with hc | heq
    · exact mem_of_mem_unifyLineEnds hc
    · exact .inr heq
  refine ⟨closeLines ls, ls, ?_, hreturn, closeLines_ends ls, hls.iff_eq, hclosed.iff_eq, rfl,
    fun e he => h.exists_holds he hwithin, fun disk' encoding' p' h' shown' => ?_⟩
  · rw [h.readText_eq_ok, hls.closed]
  · rw [h'.readText_eq_ok, hclosed.closed]

/-- A codec with one byte for each character, which has the euro sign for one of them. -/
def euroCodec (bytes : Bytes) : Except CodecFault Text :=
  .ok (bytes.map fun b => if b = 0x80 then '€' else .ofNat b.toNat)

/-- A disk with one content in all of its files, and one further codec. -/
def euroDisk : Disk where
  bytes _ := .ok [0x80, 13, 13, 10, 10, 13, 98]
  further name := if name = "cp1252".toList then .ok euroCodec else .error .unknown

/-- Ends of all kinds one behind the other, and a last line without one, in an encoding given here and in another. -/
theorem readText_lines_mixed :
    HasLines "é\r\r\n\n\rb".toList ["é".toList, [], [], [], "b".toList] ∧
    (FileHolds { bytes := fun _ => .ok [0xE9, 13, 13, 10, 10, 13, 98] } "latin-1".toList (.ofText "a.h".toList)
        "é\r\r\n\n\rb".toList ∧
      readText { bytes := fun _ => .ok [0xE9, 13, 13, 10, 10, 13, 98] } "latin-1".toList "a.h".toList
        (.ofText "a.h".toList) = .ok "é\n\n\n\nb\n".toList) ∧
    FileHolds euroDisk "cp1252".toList (.ofText "a.h".toList) "€\r\r\n\n\rb".toList ∧
      readText euroDisk "cp1252".toList "a.h".toList (.ofText "a.h".toList) = .ok "€\n\n\n\nb\n".toList := by
  have hlast : Lined "b".toList [] "b".toList := .last (by decide)
  have hcarriage : Lined "\rb".toList [([], .carriage)] "b".toList := .ended (e := .carriage) .nil (by decide) hlast
  have hfeed : Lined "\n\rb".toList [([], .feed), ([], .carriage)] "b".toList :=
    .ended (e := .feed) .nil (by decide) hcarriage
  have hboth : Lined "\r\n\n\rb".toList [([], .both), ([], .feed), ([], .carriage)] "b".toList :=
    .ended (e := .both) .nil (by decide) hfeed
  have hlines (line : Text) (h : IsLine line) :
      HasLines (line ++ "\r\r\n\n\rb".toList) [line, [], [], [], "b".toList] :=
    ⟨[(line, .carriage), ([], .both), ([], .feed), ([], .carriage)], "b".toList,
      .ended (e := .carriage) h (by decide) hboth, rfl⟩
  have hlatin : FileHolds { bytes := fun _ => .ok [0xE9, 13, 13, 10, 10, 13, 98] } "latin-1".toList
      (.ofText "a.h".toList) "é\r\r\n\n\rb".toList := ⟨rfl, rfl, _, _, rfl, rfl, rfl⟩
  have heuro : FileHolds euroDisk "cp1252".toList (.ofText "a.h".toList) "€\r\r\n\n\rb".toList :=
    ⟨rfl, rfl, _, _, rfl, rfl, rfl⟩
  obtain ⟨t, ls, hread, -, -, hls, -, rfl, -⟩ := readText_lines hlatin "a.h".toList
  obtain rfl := (hls _).1 (hlines "é".toList (by decide))
  obtain ⟨t', ls', hread', -, -, hls', -, rfl, -⟩ := readText_lines heuro "a.h".toList
  obtain rfl := (hls' _).1 (hlines "€".toList (by decide))
  exact ⟨hlines "é".toList (by decide), ⟨hlatin, hread⟩, heuro, hread'⟩

end GameSource
