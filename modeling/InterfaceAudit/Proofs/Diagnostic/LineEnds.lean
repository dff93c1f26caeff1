import InterfaceAudit.Proofs.Diagnostic.Lines
import Mathlib.Data.List.Induction

/-!
Contract: output as lines with their ends.

Owns:
- the three ends that a line can have, and the texts that are written of lines;
- what one line comes to by itself, blank or not;
- the law that lines are classified one by one, whatever ends them, and that what
  comes of them is classified as itself again.

Does not own: who prints the lines.
-/

namespace InterfaceAudit

inductive LineEnd where
  | lineFeed
  | carriageReturn
  | both
deriving DecidableEq, Repr

def LineEnd.text : LineEnd → String
  | .lineFeed => "\n"
  | .carriageReturn => "\r"
  | .both => "\r\n"

/-- Texts that are written of lines, each with an end, and the last one perhaps
without. -/
inductive WrittenAs : List String → String → Prop where
  | nothing : WrittenAs [] ""
  | unended (line : String) : WrittenAs [line] line
  | ended (line : String) (ending : LineEnd) {lines : List String} {text : String}
      (rest : WrittenAs lines text) :
      WrittenAs (line :: lines) (line ++ ending.text ++ text)

namespace Text

/-! ## Trailing blanks -/

theorem trimEnd_append_blanks
    (text : List Char)
    {blanks : List Char}
    (areBlank : ∀ c ∈ blanks, isBlank c = true) :
    trimEnd (text ++ blanks) = trimEnd text := by
  have reversed : ∀ c ∈ blanks.reverse, isBlank c = true := fun c member =>
    areBlank c (List.mem_reverse.mp member)
  rw [trimEnd, List.reverse_append, List.dropWhile_append_of_pos reversed, trimEnd]

theorem trimEnd_of_blank {text : List Char} (areBlank : ∀ c ∈ text, isBlank c = true) :
    trimEnd text = [] :=
  trimEnd_append_blanks [] areBlank

/-- A text with something visible in it is cut behind the last visible character. -/
theorem exists_visible_end
    {text : List Char}
    {c : Char}
    (member : c ∈ text)
    (visible : isBlank c = false) :
    ∃ front last blanks,
      text = front ++ last :: blanks ∧
      isBlank last = false ∧
      (∀ d ∈ blanks, isBlank d = true) ∧
      trimEnd text = front ++ [last] := by
  induction text using List.reverseRecOn with
  | nil => cases member
  | append_singleton text d inductionHypothesis =>
      by_cases isVisible : isBlank d = false
      · exact ⟨text, d, [], rfl, isVisible, List.forall_mem_nil _,
          trimEnd_append_singleton isVisible text⟩
      · have blank : isBlank d = true := Bool.not_eq_false _ ▸ isVisible
        have earlier : c ∈ text := by
          rcases List.mem_append.mp member with earlier | isLast
          · exact earlier
          · rw [List.mem_singleton.mp isLast] at visible
            exact absurd visible isVisible
        obtain ⟨front, last, blanks, shape, lastVisible, areBlank, trimmed⟩ :=
          inductionHypothesis earlier
        refine ⟨front, last, blanks ++ [d], ?_, lastVisible, ?_, ?_⟩
        · rw [shape, List.append_assoc, List.cons_append]
        · exact List.forall_mem_append.mpr ⟨areBlank, List.forall_mem_singleton.mpr blank⟩
        · rw [trimEnd_append_blanks text (List.forall_mem_singleton.mpr blank), trimmed]

/-- Trimming leaves alone what stands in front of something visible. -/
theorem trimEnd_append_of_visible
    (before : List Char)
    {text : List Char}
    (visible : ∃ c ∈ text, isBlank c = false) :
    trimEnd (before ++ text) = before ++ trimEnd text := by
  obtain ⟨c, member, isVisible⟩ := visible
  obtain ⟨front, last, blanks, shape, lastVisible, areBlank, trimmed⟩ :=
    exists_visible_end member isVisible
  have regrouped : before ++ text = (before ++ front ++ [last]) ++ blanks := by
    rw [shape]
    simp only [List.append_assoc, List.singleton_append]
  rw [regrouped, trimEnd_append_blanks _ areBlank, trimEnd_append_singleton lastVisible, trimmed,
    List.append_assoc]

theorem trimEnd_trimEnd (text : List Char) : trimEnd (trimEnd text) = trimEnd text := by
  by_cases visible : ∃ c ∈ text, isBlank c = false
  · obtain ⟨c, member, isVisible⟩ := visible
    obtain ⟨front, last, blanks, _, lastVisible, _, trimmed⟩ := exists_visible_end member isVisible
    rw [trimmed, trimEnd_append_singleton lastVisible]
  · have areBlank : ∀ c ∈ text, isBlank c = true := by
      intro c member
      refine (Bool.not_eq_false _).mp fun isVisible => ?_
      exact visible ⟨c, member, isVisible⟩
    rw [trimEnd_of_blank areBlank]
    rfl

theorem mem_of_mem_trimEnd {text : List Char} {c : Char} (member : c ∈ trimEnd text) :
    c ∈ text := by
  rw [trimEnd, List.mem_reverse] at member
  exact List.mem_reverse.mp ((List.dropWhile_suffix isBlank).subset member)

/-- No field holds a separator. -/
theorem not_separates_of_mem_splitFields
    {separates : Char → Bool}
    {text field : List Char}
    (member : field ∈ splitFields separates text) :
    ∀ c ∈ field, separates c = false := by
  induction text generalizing field with
  | nil =>
      rw [splitFields_nil, List.mem_singleton] at member
      simp [member]
  | cons d text inductionHypothesis =>
      obtain ⟨first, others, fields⟩ :=
        List.exists_cons_of_ne_nil (splitFields_ne_nil separates text)
      rw [splitFields_cons, fields] at member
      rw [fields] at inductionHypothesis
      unfold prependField at member
      split at member
      case isTrue ends =>
        rcases List.mem_cons.mp member with rfl | later
        · exact List.forall_mem_nil _
        · exact inductionHypothesis later
      case isFalse goesOn =>
        rcases List.mem_cons.mp member with rfl | later
        · exact List.forall_mem_cons.mpr
            ⟨Bool.eq_false_iff.mpr goesOn, inductionHypothesis List.mem_cons_self⟩
        · exact inductionHypothesis (List.mem_cons_of_mem _ later)

end Text

namespace Diagnostic

/-! ## One line -/

theorem classify_of_blank
    {line : String}
    (unbroken : Unbroken line)
    (areBlank : ∀ c ∈ line.toList, Text.isBlank c = true) :
    classify line = [] := by
  rw [classify, classifyChars_eq, Text.splitFields_of_forall_not unbroken, linesOf,
    List.map_singleton, Text.trimEnd_of_blank areBlank]
  rfl

/-- A line with something visible in it comes to one diagnostic. -/
theorem classifyChars_of_visible
    {line : List Char}
    (unbroken : ∀ c ∈ line, endsLine c = false)
    (visible : ∃ c ∈ line, Text.isBlank c = false) :
    classifyChars line = [ofLine (Text.trimEnd line)] := by
  obtain ⟨c, member, isVisible⟩ := visible
  obtain ⟨front, last, _, _, _, _, trimmed⟩ := Text.exists_visible_end member isVisible
  rw [classifyChars_eq, Text.splitFields_of_forall_not unbroken]
  simp [linesOf, trimmed]

/-- A diagnostic is one line without trailing blanks, so it comes to itself. -/
theorem classify_text_of_mem
    {output : String}
    {diagnostic : Diagnostic}
    (member : diagnostic ∈ classify output) :
    classify diagnostic.text = [diagnostic] := by
  rw [classify, classifyChars_eq, linesOf] at member
  obtain ⟨line, isLine, rfl⟩ := List.mem_map.mp member
  obtain ⟨isTrimmed, visible⟩ := List.mem_filter.mp isLine
  obtain ⟨field, isField, rfl⟩ := List.mem_map.mp isTrimmed
  have spelled : (ofLine (Text.trimEnd field)).text.toList = Text.trimEnd field :=
    String.toList_ofList
  have unbroken : Unbroken (ofLine (Text.trimEnd field)).text := by
    intro c among
    rw [spelled] at among
    exact Text.not_separates_of_mem_splitFields isField c (Text.mem_of_mem_trimEnd among)
  have kept : Text.trimEnd (ofLine (Text.trimEnd field)).text.toList = Text.trimEnd field := by
    rw [spelled, Text.trimEnd_trimEnd]
  have notEmpty : Text.trimEnd field ≠ [] := by
    intro isEmpty
    rw [isEmpty] at visible
    cases visible
  rw [classify_of_unbroken unbroken (by rw [kept]; exact notEmpty), kept]

/-! ## Lines with their ends -/

/-- An end of two characters has an empty line inside, which comes to nothing. -/
theorem classify_ended (line : String) (ending : LineEnd) (text : String) :
    classify (line ++ ending.text ++ text) = classify line ++ classify text := by
  have endsLine_return : endsLine '\r' = true := rfl
  simp only [classify, String.toList_append, List.append_assoc]
  cases ending with
  | lineFeed => exact classifyChars_append endsLine_newline _ _
  | carriageReturn => exact classifyChars_append endsLine_return _ _
  | both =>
      have inside : classifyChars ('\n' :: text.toList) = classifyChars text.toList :=
        classifyChars_append endsLine_newline [] text.toList
      rw [← inside]
      exact classifyChars_append endsLine_return _ _

theorem classify_of_written {lines : List String} {text : String} (written : WrittenAs lines text) :
    classify text = lines.flatMap classify := by
  induction written with
  | nothing => rfl
  | unended line => rw [List.flatMap_singleton]
  | ended line ending rest inductionHypothesis =>
      rw [classify_ended, inductionHypothesis, List.flatMap_cons]

/-- Output is classified line by line, and by nothing but its lines. Whatever ends
its lines, and the last one perhaps without an end, its diagnostics are those of
each line by itself, in order: none of a blank line, and of any other exactly one,
whose text is the line without its trailing blanks. So other ends make no
difference, and the texts of the diagnostics, with any ends, are classified as the
same diagnostics again. -/
theorem classify_line_by_line
    {lines : List String}
    {text : String}
    (written : WrittenAs lines text)
    (unbroken : ∀ line ∈ lines, ∀ c ∈ line.toList, c ≠ '\n' ∧ c ≠ '\r') :
    classify text = lines.flatMap classify ∧
    (∀ line ∈ lines, (∀ c ∈ line.toList, Text.isBlank c = true) → classify line = []) ∧
    (∀ line ∈ lines, (∃ c ∈ line.toList, Text.isBlank c = false) →
      ∃ front last blanks,
        line.toList = front ++ last :: blanks ∧
        Text.isBlank last = false ∧
        (∀ c ∈ blanks, Text.isBlank c = true) ∧
        classify line = [{
          severity := if "Note: ".toList <+: front ++ [last] then .note else .error
          text := String.ofList (front ++ [last]) }]) ∧
    (∀ other, WrittenAs lines other → classify other = classify text) ∧
    ∀ again, WrittenAs ((classify text).map Diagnostic.text) again →
      classify again = classify text := by
  have onOneLine : ∀ line ∈ lines, Unbroken line := by
    intro line member c among
    obtain ⟨notFeed, notReturn⟩ := unbroken line member c among
    rw [endsLine, beq_false_of_ne notFeed, beq_false_of_ne notReturn]
    rfl
  refine ⟨classify_of_written written, ?_, ?_, ?_, ?_⟩
  · intro line member areBlank
    exact classify_of_blank (onOneLine line member) areBlank
  · rintro line member ⟨c, among, visible⟩
    obtain ⟨front, last, blanks, shape, lastVisible, areBlank, trimmed⟩ :=
      Text.exists_visible_end among visible
    refine ⟨front, last, blanks, shape, lastVisible, areBlank, ?_⟩
    have notEmpty : Text.trimEnd line.toList ≠ [] := by simp [trimmed]
    have isMark : "Note: ".toList = noteMark := by decide
    rw [classify_of_unbroken (onOneLine line member) notEmpty, trimmed, ofLine, isMark]
    simp only [List.isPrefixOf_iff_prefix]
  · intro other writtenToo
    rw [classify_of_written writtenToo, classify_of_written written]
  · intro again rewritten
    have single (diagnostics : List Diagnostic) (among : ∀ one ∈ diagnostics, one ∈ classify text) :
        (diagnostics.map Diagnostic.text).flatMap classify = diagnostics := by
      induction diagnostics with
      | nil => rfl
      | cons first others inductionHypothesis =>
          obtain ⟨isFirst, areOthers⟩ := List.forall_mem_cons.mp among
          rw [List.map_cons, List.flatMap_cons, classify_text_of_mem isFirst,
            inductionHypothesis areOthers, List.singleton_append]
    rw [classify_of_written rewritten]
    exact single (classify text) fun one member => member

/-- A carriage return in front of an empty line, which is itself ended by a line
feed, looks like one end of two characters. -/
theorem classify_line_by_line_of_mixed_ends :
    let lines := ["a \u00a0", "", "\t\u3000", "Note: b "]
    let text := "a \u00a0\r\n\t\u3000\r\nNote: b "
    let errors : List Diagnostic := [.error "a", .note "Note: b"]
    WrittenAs lines text ∧
    (∀ line ∈ lines, ∀ c ∈ line.toList, c ≠ '\n' ∧ c ≠ '\r') ∧
    lines.flatMap classify = errors ∧
    classify text = errors ∧
    classify "\t\u3000" = [] ∧
    classify "a\r\nNote: b\r" = errors := by
  intro lines text errors
  have written : WrittenAs lines text :=
    .ended "a \u00a0" .carriageReturn (.ended "" .lineFeed (.ended "\t\u3000" .both
      (.unended "Note: b ")))
  have isChecked :
      lines.all (fun line => line.toList.all fun c => c != '\n' && c != '\r') = true := by decide
  have unbroken : ∀ line ∈ lines, ∀ c ∈ line.toList, c ≠ '\n' ∧ c ≠ '\r' := by
    simpa only [List.all_eq_true, Bool.and_eq_true, bne_iff_ne] using isChecked
  have isErrors : lines.flatMap classify = errors := by decide
  obtain ⟨whole, blank, _, _, again⟩ := classify_line_by_line written unbroken
  have isText : classify text = errors := whole.trans isErrors
  have rewritten : WrittenAs ((classify text).map Diagnostic.text) "a\r\nNote: b\r" := by
    rw [isText]
    exact .ended "a" .both (.ended "Note: b" .carriageReturn .nothing)
  have areBlank : ("\t\u3000".toList.all Text.isBlank) = true := by decide
  exact ⟨written, unbroken, isErrors, isText,
    blank "\t\u3000" (by decide) (List.all_eq_true.mp areBlank), (again _ rewritten).trans isText⟩

end Diagnostic

end InterfaceAudit
