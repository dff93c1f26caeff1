import InterfaceAudit.Proofs.Diagnostic.LineEnds

/-!
Contract: the severity of a diagnostic, by the line that it comes from.

Owns:
- the law that every output is written of lines;
- the severity of each line of an output as it is printed, blanks at its end included.

Does not own: the texts of diagnostics.

The mark of notes ends in a blank. A line that holds nothing behind the mark is
trimmed into the mark, and is no note any more.
-/

namespace InterfaceAudit

/-! ## Outputs as lines -/

theorem WrittenAs.eq_empty {text : String} (written : WrittenAs [] text) : text = "" := by
  cases written
  rfl

/-- What is put in front of a text stands in front of its first line. -/
theorem WrittenAs.prepend
    {line : String}
    {lines : List String}
    {text : String}
    (written : WrittenAs (line :: lines) text)
    (front : String) :
    WrittenAs ((front ++ line) :: lines) (front ++ text) := by
  cases written with
  | unended line => exact .unended (front ++ line)
  | ended line ending rest =>
      rw [← String.append_assoc, ← String.append_assoc]
      exact .ended (front ++ line) ending rest

theorem Unbroken.empty : Unbroken "" :=
  List.forall_mem_nil _

theorem Unbroken.singleton {c : Char} (goesOn : Diagnostic.endsLine c = false) :
    Unbroken (String.singleton c) := by
  intro d member
  rw [String.toList_singleton, List.mem_singleton] at member
  rw [member]
  exact goesOn

/-- Every text is written of lines that hold no end of a line. -/
theorem exists_writtenAs (text : String) :
    ∃ lines, WrittenAs lines text ∧ ∀ line ∈ lines, Unbroken line := by
  suffices spelled : ∀ chars : List Char,
      ∃ lines, WrittenAs lines (String.ofList chars) ∧ ∀ line ∈ lines, Unbroken line by
    have whole := spelled text.toList
    rwa [String.ofList_toList] at whole
  intro chars
  induction chars with
  | nil => exact ⟨[], .nothing, List.forall_mem_nil _⟩
  | cons c chars inductionHypothesis =>
      obtain ⟨lines, written, unbroken⟩ := inductionHypothesis
      have isWhole : String.ofList (c :: chars) = String.singleton c ++ String.ofList chars := by
        rw [String.singleton_eq_ofList, ← String.ofList_append, List.singleton_append]
      rw [isWhole]
      have opened : ∀ line ∈ "" :: lines, Unbroken line :=
        List.forall_mem_cons.mpr ⟨.empty, unbroken⟩
      by_cases isFeed : c = '\n'
      · rw [isFeed]
        exact ⟨"" :: lines, .ended "" .lineFeed written, opened⟩
      by_cases isReturn : c = '\r'
      · rw [isReturn]
        exact ⟨"" :: lines, .ended "" .carriageReturn written, opened⟩
      have goesOn : Diagnostic.endsLine c = false := by
        rw [Diagnostic.endsLine, beq_false_of_ne isFeed, beq_false_of_ne isReturn]
        rfl
      cases lines with
      | nil =>
          rw [written.eq_empty, String.append_empty]
          exact ⟨[String.singleton c], .unended _,
            List.forall_mem_singleton.mpr (.singleton goesOn)⟩
      | cons line lines =>
          obtain ⟨firstUnbroken, othersUnbroken⟩ := List.forall_mem_cons.mp unbroken
          refine ⟨(String.singleton c ++ line) :: lines, written.prepend _, ?_⟩
          exact List.forall_mem_cons.mpr
            ⟨(Unbroken.singleton goesOn).append firstUnbroken, othersUnbroken⟩

/-- Something visible in a text is in one of its lines. -/
theorem WrittenAs.exists_mem
    {lines : List String}
    {text : String}
    (written : WrittenAs lines text)
    {c : Char}
    (member : c ∈ text.toList)
    (visible : Text.isBlank c = false) :
    ∃ line ∈ lines, c ∈ line.toList := by
  induction written with
  | nothing => cases member
  | unended line => exact ⟨line, List.mem_singleton_self line, member⟩
  | ended line ending rest inductionHypothesis =>
      rw [String.toList_append, String.toList_append, List.mem_append, List.mem_append] at member
      rcases member with (inLine | inEnding) | inRest
      · exact ⟨line, List.mem_cons_self, inLine⟩
      · have allBlank : ending.text.toList.all Text.isBlank = true := by
          cases ending <;> decide
        rw [List.all_eq_true.mp allBlank c inEnding] at visible
        cases visible
      · obtain ⟨other, isOther, inOther⟩ := inductionHypothesis inRest
        exact ⟨other, List.mem_cons_of_mem line isOther, inOther⟩

namespace Text

theorem trimEnd_isPrefix (text : List Char) : trimEnd text <+: text := by
  have suffix : text.reverse.dropWhile isBlank <:+ text.reverse := List.dropWhile_suffix isBlank
  have reversed := List.reverse_prefix.mpr suffix
  rwa [List.reverse_reverse] at reversed

end Text

namespace Diagnostic

/-! ## The mark of notes -/

/-- The mark of notes outlives the trimming of a line where something visible
follows it, and only there. -/
theorem noteMark_isPrefix_trimEnd_iff (line : List Char) :
    noteMark <+: Text.trimEnd line ↔
      ∃ rest, line = noteMark ++ rest ∧ ∃ c ∈ rest, Text.isBlank c = false := by
  constructor
  · intro marked
    obtain ⟨rest, shape⟩ := marked.trans (Text.trimEnd_isPrefix line)
    refine ⟨rest, shape.symm, ?_⟩
    by_contra invisible
    have areBlank : ∀ c ∈ rest, Text.isBlank c = true := by
      intro c member
      exact Bool.of_not_eq_false fun isVisible => invisible ⟨c, member, isVisible⟩
    have cut : Text.trimEnd line = ['N', 'o', 't', 'e', ':'] := by
      rw [← shape, Text.trimEnd_append_blanks noteMark areBlank]
      decide
    have tooLong := marked.length_le
    rw [cut] at tooLong
    exact absurd tooLong (by decide)
  · rintro ⟨rest, rfl, visible⟩
    rw [Text.trimEnd_append_of_visible noteMark visible]
    exact List.prefix_append _ _

theorem severity_ofLine_eq_note_iff (line : List Char) :
    (ofLine line).severity = .note ↔ noteMark <+: line := by
  rw [ofLine, ← List.isPrefixOf_iff_prefix]
  cases noteMark.isPrefixOf line <;> simp

/-! ## The severity of a printed line -/

/-- A line that is not blank comes to one diagnostic, which is a note if the line
begins with the mark of notes and holds something visible behind it. -/
theorem classify_of_visible
    {line : String}
    (unbroken : Unbroken line)
    (visible : ∃ c ∈ line.toList, Text.isBlank c = false) :
    ∃ diagnostic,
      classify line = [diagnostic] ∧
      (diagnostic.severity = .note ↔
        ∃ rest, line.toList = noteMark ++ rest ∧ ∃ c ∈ rest, Text.isBlank c = false) := by
  refine ⟨ofLine (Text.trimEnd line.toList), classifyChars_of_visible unbroken visible, ?_⟩
  rw [severity_ofLine_eq_note_iff, noteMark_isPrefix_trimEnd_iff]

/-- Output with something visible in it is never passed over. -/
theorem classify_ne_nil_of_visible
    {output : String}
    (visible : ∃ c ∈ output.toList, Text.isBlank c = false) :
    classify output ≠ [] := by
  obtain ⟨c, member, isVisible⟩ := visible
  obtain ⟨lines, written, unbroken⟩ := exists_writtenAs output
  obtain ⟨line, isLine, inLine⟩ := written.exists_mem member isVisible
  obtain ⟨diagnostic, classified, _⟩ :=
    classify_of_visible (unbroken line isLine) ⟨c, inLine, isVisible⟩
  rw [classify_of_written written]
  have reported : diagnostic ∈ lines.flatMap classify := by
    refine List.mem_flatMap.mpr ⟨line, isLine, ?_⟩
    rw [classified]
    exact List.mem_singleton_self diagnostic
  exact List.ne_nil_of_mem reported

/-- The severity of a diagnostic is that of the line that was printed, except for
the bare mark of notes. Every output is written of lines, whatever ends them, and
between the diagnostics of the lines before it and behind it a line that is not
blank has one diagnostic of its own. That is a note exactly if the line begins with
the mark and holds something visible behind it; so it follows the beginning of the
line as printed unless the line is the mark with nothing but blanks behind it. -/
theorem severity_of_printed_line (text : String) :
    (∃ lines, WrittenAs lines text ∧ ∀ line ∈ lines, Unbroken line) ∧
    ∀ earlier line later,
      WrittenAs (earlier ++ line :: later) text →
      (∀ other ∈ earlier ++ line :: later, Unbroken other) →
      (∃ c ∈ line.toList, Text.isBlank c = false) →
      ∃ diagnostic,
        classify text = earlier.flatMap classify ++ diagnostic :: later.flatMap classify ∧
        classify line = [diagnostic] ∧
        (diagnostic.severity = .note ↔
          ∃ rest, line.toList = "Note: ".toList ++ rest ∧ ∃ c ∈ rest, Text.isBlank c = false) ∧
        ((diagnostic.severity = .note ↔ "Note: ".toList <+: line.toList) ↔
          ¬∃ blanks, line.toList = "Note: ".toList ++ blanks ∧
            ∀ c ∈ blanks, Text.isBlank c = true) := by
  refine ⟨exists_writtenAs text, ?_⟩
  intro earlier line later written unbroken visible
  have isMark : "Note: ".toList = noteMark := by decide
  have onOneLine : Unbroken line := unbroken line (by simp)
  obtain ⟨diagnostic, classified, isNote⟩ := classify_of_visible onOneLine visible
  refine ⟨diagnostic, ?_, classified, ?_, ?_⟩
  · rw [classify_of_written written, List.flatMap_append, List.flatMap_cons, classified]
    rfl
  · rw [isMark]
    exact isNote
  · rw [isMark, isNote]
    constructor
    · rintro follows ⟨blanks, shape, areBlank⟩
      obtain ⟨rest, sameShape, c, member, isVisible⟩ := follows.mpr ⟨blanks, shape.symm⟩
      have sameRest : rest = blanks := List.append_cancel_left (sameShape.symm.trans shape)
      rw [sameRest] at member
      rw [areBlank c member] at isVisible
      cases isVisible
    · intro notBare
      constructor
      · rintro ⟨rest, shape, _⟩
        exact ⟨rest, shape.symm⟩
      · rintro ⟨rest, shape⟩
        refine ⟨rest, shape.symm, ?_⟩
        by_contra invisible
        refine notBare ⟨rest, shape.symm, ?_⟩
        intro c member
        exact Bool.of_not_eq_false fun isVisible => invisible ⟨c, member, isVisible⟩

/-- A line with the mark and a word is a note, between two bare marks that are none. -/
theorem severity_of_printed_line_of_word :
    let text := "Note: \u3000\r\nNote: \u00a0seek \rNote: "
    WrittenAs (["Note: \u3000"] ++ "Note: \u00a0seek " :: ["Note: "]) text ∧
    ∃ diagnostic,
      classify text = [.error "Note:", diagnostic, .error "Note:"] ∧
      diagnostic.severity = .note := by
  intro text
  have written : WrittenAs (["Note: \u3000"] ++ "Note: \u00a0seek " :: ["Note: "]) text :=
    .ended "Note: \u3000" .both (.ended "Note: \u00a0seek " .carriageReturn (.unended "Note: "))
  have unbroken : ∀ other ∈ ["Note: \u3000"] ++ "Note: \u00a0seek " :: ["Note: "],
      Unbroken other := by decide
  have visible : ∃ c ∈ "Note: \u00a0seek ".toList, Text.isBlank c = false :=
    ⟨'s', by decide, by decide⟩
  obtain ⟨diagnostic, whole, _, isNote, _⟩ :=
    (severity_of_printed_line text).2 _ _ _ written unbroken visible
  have isNoted : diagnostic.severity = .note :=
    isNote.mpr ⟨"\u00a0seek ".toList, by decide, 's', by decide, by decide⟩
  exact ⟨written, diagnostic, whole, isNoted⟩

/-- A line that is the bare mark of notes begins with the mark, and is an error. -/
theorem error_of_bare_mark :
    WrittenAs ["Note: "] "Note: \n" ∧
    "Note: ".toList <+: "Note: ".toList ∧
    classify "Note: \n" = [.error "Note:"] :=
  ⟨.ended "Note: " .lineFeed .nothing, List.prefix_refl _, by decide⟩

end Diagnostic

end InterfaceAudit
