import EasyMc.Library.Utf8
import EasyMc.Runtime.Manager

/-!
# The lines of a process (`apps/desktop/src/runtime/node-local-runtime.mjs`)

A process writes bytes, which arrive in chunks.  `createLineBuffer` makes a text of each chunk by itself, adds it to what is
left of the chunks before and passes on the lines that are complete.  How a text is cut does not matter
(`bufferedLines_eq`), not even between `\r` and `\n`; but a character that is cut in two becomes several replacement
characters.  So the lines are those of the whole exactly if no chunk ends inside a character that the bytes after it go on
with (`bufferedLines_eq_iff`).
-/

namespace EasyMc.Runtime

open Text (isBlank trim)

/-- What the line buffer emits for the chunks and the final flush: `push` adds `String(chunk)` to the buffer. -/
def bufferedLines (buffer : Text) : List (List UInt8) → List Text
  | [] => flushBuffer buffer
  | chunk :: chunks =>
    let (lines, rest) := pushChunk buffer (Utf8.decode chunk)
    lines ++ bufferedLines rest chunks

/-- The trimmed lines of a text that are not empty. -/
def trimmedLines (text : Text) : List Text := emittedLines ((splitLines text).1 ++ [(splitLines text).2])

/-! ### Cutting a text -/

theorem splitLines_cons {c : Char} {rest : Text} (hfeed : c ≠ '\n') (hreturn : c = '\r' → rest.head? ≠ some '\n') :
    splitLines (c :: rest) =
      match splitLines rest with
      | ([], last) => ([], c :: last)
      | (line :: lines, last) => ((c :: line) :: lines, last) := by
  rw [splitLines.eq_def]
  split
  · rename_i heq
    cases heq
  · rename_i tail heq
    obtain ⟨rfl, rfl⟩ := List.cons.inj heq
    exact absurd rfl (hreturn rfl)
  · rename_i heq
    obtain ⟨rfl, rfl⟩ := List.cons.inj heq
    exact if_neg hfeed

/-- Without a complete line, all of the text is left. -/
theorem splitLines_snd (text : Text) (h : (splitLines text).1 = []) : (splitLines text).2 = text := by
  fun_induction splitLines text with
  | case1 => rfl
  | case2 rest ih => cases h
  | case3 rest hreturn ih => cases h
  | case4 c rest hreturn hfeed last hlast ih =>
    rw [hlast] at ih
    exact congrArg (c :: ·) (ih rfl)
  | case5 c rest hreturn hfeed line lines last hlines ih => cases h

/-- The lines of a text and more: those of the text, and then those of what is left of it and more. -/
theorem splitLines_append (text more : Text) :
    splitLines (text ++ more) =
      ((splitLines text).1 ++ (splitLines ((splitLines text).2 ++ more)).1, (splitLines ((splitLines text).2 ++ more)).2) := by
  fun_induction splitLines text with
  | case1 => rfl
  | case2 rest ih =>
    show splitLines ('\r' :: '\n' :: (rest ++ more)) = _
    rw [splitLines, ih]
    rfl
  | case3 rest hreturn ih =>
    show splitLines ('\n' :: (rest ++ more)) = _
    rw [splitLines, if_pos rfl, ih]
    · rfl
    · intro tail htail
      cases htail
  | case4 c rest hreturn hfeed last hlast ih =>
    -- There is no line, so the text is what is left of it.
    have hleft := splitLines_snd rest (by rw [hlast])
    rw [hlast] at hleft
    dsimp only at hleft ⊢
    rw [hleft]
    rfl
  | case5 c rest hreturn hfeed line lines last hlines ih =>
    rw [hlines] at ih
    have hhead : c = '\r' → (rest ++ more).head? ≠ some '\n' := by
      rintro rfl hnewline
      cases rest with
      | nil => cases hlines
      | cons d rest =>
        obtain rfl : d = '\n' := Option.some_inj.1 hnewline
        exact hreturn rest rfl rfl
    rw [List.cons_append, splitLines_cons hfeed hhead, ih]
    rfl

theorem emittedLines_append (lines lines' : List Text) : emittedLines (lines ++ lines') = emittedLines lines ++ emittedLines lines' := by
  rw [emittedLines, List.map_append, List.filter_append]
  rfl

/-- No line is complete in what is left. -/
theorem splitLines_left (text : Text) : splitLines (splitLines text).2 = ([], (splitLines text).2) := by
  have happend := splitLines_append text []
  rw [List.append_nil, List.append_nil] at happend
  have hlines := congrArg Prod.fst happend
  have hnone : (splitLines (splitLines text).2).1 = [] := List.self_eq_append_right.1 hlines
  exact Prod.ext hnone (splitLines_snd _ hnone)

/-- The line buffer emits the lines of all that it has been given. -/
theorem bufferedLines_eq {buffer : Text} (hbuffer : splitLines buffer = ([], buffer)) (chunks : List (List UInt8)) :
    bufferedLines buffer chunks = trimmedLines (buffer ++ (chunks.map Utf8.decode).flatten) := by
  induction chunks generalizing buffer with
  | nil =>
    rw [List.map_nil, List.flatten_nil, List.append_nil, trimmedLines, hbuffer]
    rfl
  | cons chunk chunks ih =>
    have hrest := ih (splitLines_left (buffer ++ Utf8.decode chunk))
    have hsplit := splitLines_append (buffer ++ Utf8.decode chunk) (chunks.map Utf8.decode).flatten
    rw [List.map_cons, List.flatten_cons, ← List.append_assoc, trimmedLines, hsplit, List.append_assoc,
      emittedLines_append]
    show emittedLines _ ++ bufferedLines _ chunks = _
    rw [hrest]
    rfl

/-! ### Counting what is not a blank -/

theorem count_splitLines {c : Char} (hfeed : c ≠ '\n') (hreturn : c ≠ '\r') (text : Text) :
    ((splitLines text).1 ++ [(splitLines text).2]).flatten.count c = text.count c := by
  fun_induction splitLines text with
  | case1 => rfl
  | case2 rest ih =>
    rw [List.cons_append, List.flatten_cons, List.nil_append, ih, List.count_cons_of_ne hreturn.symm,
      List.count_cons_of_ne hfeed.symm]
  | case3 rest _ ih =>
    rw [List.cons_append, List.flatten_cons, List.nil_append, ih, List.count_cons_of_ne hfeed.symm]
  | case4 d rest _ _ last hlast ih =>
    rw [hlast] at ih
    simp only [List.nil_append, List.flatten_cons, List.flatten_nil, List.append_nil] at ih ⊢
    rw [List.count_cons, ih, List.count_cons]
  | case5 d rest _ _ line lines last hlines ih =>
    rw [hlines] at ih
    simp only [List.cons_append, List.flatten_cons] at ih ⊢
    rw [List.count_cons, ih, List.count_cons]

theorem count_emittedLines {c : Char} (hc : isBlank c = false) (lines : List Text) :
    (emittedLines lines).flatten.count c = lines.flatten.count c := by
  induction lines with
  | nil => rfl
  | cons line lines ih =>
    have hcons : emittedLines (line :: lines) = emittedLines [line] ++ emittedLines lines := emittedLines_append [line] lines
    have hline : (emittedLines [line]).flatten.count c = line.count c := by
      have htrim : (trim line).count c = line.count c := Text.count_trimBy hc line
      by_cases hempty : trim line = []
      · rw [hempty] at htrim
        simp [emittedLines, hempty, ← htrim]
      · simp [emittedLines, hempty, htrim]
    rw [hcons, List.flatten_append, List.count_append, hline, ih, List.flatten_cons, List.count_append]

/-- The lines keep every character that is no blank. -/
theorem count_trimmedLines {c : Char} (hc : isBlank c = false) (text : Text) :
    (trimmedLines text).flatten.count c = text.count c := by
  have hfeed : c ≠ '\n' := by
    rintro rfl
    cases hc
  have hreturn : c ≠ '\r' := by
    rintro rfl
    cases hc
  rw [trimmedLines, count_emittedLines hc, count_splitLines hfeed hreturn]

/-- A chunk that ends inside a character shows: the chunks hold more replacement characters than the whole, and the lines
keep all of them. -/
theorem keepsCharacters_of_eq {chunks : List (List UInt8)}
    (heq : bufferedLines [] chunks = trimmedLines (Utf8.decode chunks.flatten)) : Utf8.KeepsCharacters chunks := by
  have hlines : bufferedLines [] chunks = trimmedLines (chunks.map Utf8.decode).flatten := bufferedLines_eq rfl chunks
  by_contra hcut
  have hlt := Utf8.count_decode_flatten_lt hcut
  have hblank : isBlank Utf8.replacement = false := by decide
  have hsame := congrArg (fun lines => lines.flatten.count Utf8.replacement) (hlines.symm.trans heq)
  rw [count_trimmedLines hblank, count_trimmedLines hblank] at hsame
  omega

/-- The line buffer emits the trimmed lines of all bytes decoded as a whole exactly if no chunk ends inside a character that
the bytes after it go on with. -/
theorem bufferedLines_eq_iff (chunks : List (List UInt8)) :
    bufferedLines [] chunks = trimmedLines (Utf8.decode chunks.flatten) ↔ Utf8.KeepsCharacters chunks := by
  constructor
  · exact keepsCharacters_of_eq
  · intro hkeeps
    have hlines : bufferedLines [] chunks = trimmedLines (chunks.map Utf8.decode).flatten := bufferedLines_eq rfl chunks
    rw [hlines, Utf8.decode_flatten hkeeps]

/-- The letter `é`, cut between its bytes. -/
theorem not_bufferedLines_eq : ¬ ∀ chunks, bufferedLines [] chunks = trimmedLines (Utf8.decode chunks.flatten) := by
  intro hall
  have hkeeps : Utf8.KeepsCharacters [[0xC3], [0xA9, 0x0A]] := keepsCharacters_of_eq (hall _)
  revert hkeeps
  decide

end EasyMc.Runtime
