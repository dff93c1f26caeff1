import InterfaceAudit.Diagnostic
import InterfaceAudit.Replay

/-!
Contract: classification of output that was printed line by line.

Owns:
- the law that classification treats every line of the output by itself, and that
  its two passes over the output come to one;
- printing in the manner of a runtime, which ends a text only where no line
  feed ends it already;
- the law that the output of a tally is classified like its lines one by one,
  however their ends are printed;
- the diagnostic of a text that holds no line break.

Does not own: which lines a run prints.
-/

namespace InterfaceAudit

namespace Text

/-- A separator splits what is before it and what is behind it independently. -/
theorem splitFields_append
    {separates : Char → Bool}
    {c : Char}
    (ends : separates c = true)
    (before behind : List Char) :
    splitFields separates (before ++ c :: behind) =
      splitFields separates before ++ splitFields separates behind := by
  induction before with
  | nil => simp [splitFields_cons, prependField, ends]
  | cons d before inductionHypothesis =>
      obtain ⟨field, others, fields⟩ :=
        List.exists_cons_of_ne_nil (splitFields_ne_nil separates before)
      rw [List.cons_append, splitFields_cons, splitFields_cons, inductionHypothesis, fields]
      unfold prependField
      split <;> rfl

/-- Trimming stops at the last character that is not blank. -/
theorem trimEnd_append_singleton
    {c : Char}
    (visible : isBlank c = false)
    (text : List Char) :
    trimEnd (text ++ [c]) = text ++ [c] := by
  rw [trimEnd, List.reverse_append, List.reverse_singleton, List.singleton_append,
    List.dropWhile_cons_of_neg (by rw [visible]; exact Bool.false_ne_true), List.reverse_cons,
    List.reverse_reverse]

/-- Trimming never reaches a first character that is not blank. -/
theorem trimEnd_cons
    {c : Char}
    (visible : isBlank c = false)
    (text : List Char) :
    trimEnd (c :: text) = c :: trimEnd text := by
  rw [trimEnd, trimEnd, List.reverse_cons, List.dropWhile_append]
  cases left : text.reverse.dropWhile isBlank with
  | nil => simp [visible]
  | cons d others => simp

end Text

/-! ## Lines of the output -/

namespace Diagnostic

/-- The fields of an output that are not blank, without their trailing blanks. -/
def linesOf (fields : List (List Char)) : List (List Char) :=
  (fields.map Text.trimEnd).filter fun line => !line.isEmpty

theorem linesOf_append (first second : List (List Char)) :
    linesOf (first ++ second) = linesOf first ++ linesOf second := by
  rw [linesOf, List.map_append, List.filter_append]
  rfl

theorem linesOf_nil_cons (fields : List (List Char)) : linesOf ([] :: fields) = linesOf fields :=
  rfl

theorem linesOf_cons_congr
    (field : List Char)
    {fewer others : List (List Char)}
    (same : linesOf fewer = linesOf others) :
    linesOf (field :: fewer) = linesOf (field :: others) := by
  have single (fields : List (List Char)) :
      linesOf (field :: fields) = linesOf [field] ++ linesOf fields :=
    linesOf_append [field] fields
  rw [single fewer, single others, same]

/-- Writing a line break of two characters as one only takes an empty field away,
and never the one that the output starts with. -/
theorem splitFields_unifyBreaks (output : List Char) :
    ∃ field others fewer,
      Text.splitFields endsLine output = field :: others ∧
      Text.splitFields endsLine (unifyBreaks output) = field :: fewer ∧
      linesOf fewer = linesOf others := by
  fun_induction unifyBreaks output with
  | case1 output inductionHypothesis =>
      obtain ⟨field, others, fewer, isSplit, isUnified, same⟩ := inductionHypothesis
      refine ⟨[], [] :: field :: others, field :: fewer, ?_, ?_, ?_⟩
      · rw [Text.splitFields_cons, Text.splitFields_cons, isSplit]
        rfl
      · rw [Text.splitFields_cons, isUnified]
        rfl
      · rw [linesOf_nil_cons]
        exact linesOf_cons_congr field same
  | case2 c output _ inductionHypothesis =>
      obtain ⟨field, others, fewer, isSplit, isUnified, same⟩ := inductionHypothesis
      rw [Text.splitFields_cons, Text.splitFields_cons, isSplit, isUnified]
      by_cases ends : endsLine c = true
      · refine ⟨[], field :: others, field :: fewer, ?_, ?_, linesOf_cons_congr field same⟩
        · rw [Text.prependField, if_pos ends]
        · rw [Text.prependField, if_pos ends]
      · refine ⟨c :: field, others, fewer, ?_, ?_, same⟩
        · rw [Text.prependField, if_neg ends]
        · rw [Text.prependField, if_neg ends]
  | case3 => exact ⟨[], [], [], rfl, rfl, rfl⟩

/-- The two passes over an output come to one: every carriage return and every line
feed ends a line, also next to each other. -/
theorem classifyChars_eq (output : List Char) :
    classifyChars output = (linesOf (Text.splitFields endsLine output)).map ofLine := by
  obtain ⟨field, others, fewer, isSplit, isUnified, same⟩ := splitFields_unifyBreaks output
  have unified : classifyChars output = (linesOf (field :: fewer)).map ofLine := by
    rw [classifyChars, isUnified]
    rfl
  rw [unified, isSplit, linesOf_cons_congr field same]

theorem classifyChars_nil : classifyChars [] = [] := rfl

theorem endsLine_newline : endsLine '\n' = true := rfl

/-- A line break separates what is classified before it from what is classified
behind it. -/
theorem classifyChars_append
    {c : Char}
    (ends : endsLine c = true)
    (before behind : List Char) :
    classifyChars (before ++ c :: behind) = classifyChars before ++ classifyChars behind := by
  rw [classifyChars_eq, classifyChars_eq, classifyChars_eq, Text.splitFields_append ends,
    linesOf_append, List.map_append]

/-- A line break at the end of the output adds nothing to it. -/
theorem classifyChars_ended {c : Char} (ends : endsLine c = true) (text : List Char) :
    classifyChars (text ++ [c]) = classifyChars text := by
  rw [classifyChars_append ends, classifyChars_nil, List.append_nil]

end Diagnostic

/-! ## Texts on one line -/

/-- A text without a line break. -/
def Unbroken (text : String) : Prop :=
  ∀ c ∈ text.toList, Diagnostic.endsLine c = false

instance (text : String) : Decidable (Unbroken text) :=
  List.decidableBAll (fun c => Diagnostic.endsLine c = false) text.toList

theorem Unbroken.append
    {left right : String}
    (leftUnbroken : Unbroken left)
    (rightUnbroken : Unbroken right) :
    Unbroken (left ++ right) := by
  intro c member
  rw [String.toList_append, List.mem_append] at member
  rcases member with member | member
  · exact leftUnbroken c member
  · exact rightUnbroken c member

theorem head?_append
    {left : String}
    {c : Char}
    (starts : left.toList.head? = some c)
    (right : String) :
    (left ++ right).toList.head? = some c := by
  rw [String.toList_append, List.head?_append, starts]
  rfl

theorem getLast?_append
    {right : String}
    {c : Char}
    (ends : right.toList.getLast? = some c)
    (left : String) :
    (left ++ right).toList.getLast? = some c := by
  rw [String.toList_append, List.getLast?_append, ends]
  rfl

/-- A text without its trailing blanks. -/
def trimmed (text : String) : String :=
  String.ofList (Text.trimEnd text.toList)

namespace Diagnostic

/-- A line that is not blank is one diagnostic. -/
theorem classify_of_unbroken
    {line : String}
    (unbroken : Unbroken line)
    (visible : Text.trimEnd line.toList ≠ []) :
    classify line = [ofLine (Text.trimEnd line.toList)] := by
  rw [classify, classifyChars_eq, Text.splitFields_of_forall_not unbroken]
  simp [linesOf, visible]

/-- A line that starts with another letter than the mark of notes is an error. -/
theorem classify_of_error
    {line : String}
    {c : Char}
    (unbroken : Unbroken line)
    (starts : line.toList.head? = some c)
    (visible : Text.isBlank c = false)
    (unmarked : c ≠ 'N') :
    classify line = [.error (trimmed line)] := by
  obtain ⟨rest, shape⟩ := List.head?_eq_some_iff.mp starts
  have kept : Text.trimEnd line.toList = c :: Text.trimEnd rest := by
    rw [shape, Text.trimEnd_cons visible]
  have isNote : noteMark.isPrefixOf (c :: Text.trimEnd rest) = false := by
    simp [noteMark, List.isPrefixOf, unmarked.symm]
  rw [classify_of_unbroken unbroken (by rw [kept]; exact List.cons_ne_nil _ _), trimmed, kept,
    ofLine, isNote]
  rfl

/-- Whatever breaks a text, if it starts with something visible other than the
first letter of the mark of notes then its first diagnostic is an error. -/
theorem classify_of_error_start
    {text : String}
    {c : Char}
    (starts : text.toList.head? = some c)
    (visible : Text.isBlank c = false)
    (unmarked : c ≠ 'N') :
    ∃ first others, classify text = .error first :: others := by
  obtain ⟨rest, shape⟩ := List.head?_eq_some_iff.mp starts
  have unbroken : endsLine c = false := by
    rw [endsLine, Bool.or_eq_false_iff, beq_eq_false_iff_ne, beq_eq_false_iff_ne]
    constructor
    · rintro rfl
      exact absurd visible (by decide)
    · rintro rfl
      exact absurd visible (by decide)
  obtain ⟨field, others, fields⟩ :=
    List.exists_cons_of_ne_nil (Text.splitFields_ne_nil endsLine rest)
  have split : Text.splitFields endsLine text.toList = (c :: field) :: others := by
    rw [shape, Text.splitFields_cons, fields, Text.prependField, unbroken]
    rfl
  have isNote : noteMark.isPrefixOf (c :: Text.trimEnd field) = false := by
    simp [noteMark, List.isPrefixOf, unmarked.symm]
  refine ⟨String.ofList (c :: Text.trimEnd field), ?_, ?_⟩
  · exact ((others.map Text.trimEnd).filter (fun line => !line.isEmpty)).map ofLine
  · rw [classify, classifyChars_eq, split, linesOf, List.map_cons, Text.trimEnd_cons visible,
      List.filter_cons_of_pos rfl, List.map_cons, ofLine, isNote]
    rfl

/-- A line with the mark of notes is a note, if something visible ends it. -/
theorem classify_of_note
    {line : String}
    {c : Char}
    (unbroken : Unbroken line)
    (ends : line.toList.getLast? = some c)
    (visible : Text.isBlank c = false)
    (marked : noteMark.isPrefixOf line.toList = true) :
    classify line = [.note line] := by
  obtain ⟨front, shape⟩ := List.getLast?_eq_some_iff.mp ends
  have kept : Text.trimEnd line.toList = line.toList := by
    rw [shape, Text.trimEnd_append_singleton visible]
  have notEmpty : line.toList ≠ [] := by
    rw [shape]
    exact List.append_ne_nil_of_right_ne_nil _ (List.cons_ne_nil _ _)
  rw [classify_of_unbroken unbroken (by rw [kept]; exact notEmpty), kept, ofLine, marked,
    String.ofList_toList]
  rfl

end Diagnostic

/-- Nothing is trimmed from a text that something visible ends. -/
theorem trimmed_eq_self
    {text : String}
    {c : Char}
    (ends : text.toList.getLast? = some c)
    (visible : Text.isBlank c = false) :
    trimmed text = text := by
  obtain ⟨front, shape⟩ := List.getLast?_eq_some_iff.mp ends
  rw [trimmed, shape, Text.trimEnd_append_singleton visible, ← shape, String.ofList_toList]

/-! ## Printed texts -/

/-- A text as a runtime prints it: with a line feed, unless it ends in one. -/
def printed (text : String) : List Char :=
  if text.toList.getLast? = some '\n' then text.toList else text.toList ++ ['\n']

namespace Diagnostic

/-- What is printed behind a text never touches the diagnostics of the text. -/
theorem classifyChars_printed_append (text : String) (rest : List Char) :
    classifyChars (printed text ++ rest) = classify text ++ classifyChars rest := by
  unfold printed classify
  split
  next ended =>
    obtain ⟨front, shape⟩ := List.getLast?_eq_some_iff.mp ended
    rw [shape, classifyChars_ended endsLine_newline, List.append_assoc, List.singleton_append,
      classifyChars_append endsLine_newline]
  next =>
    rw [List.append_assoc, List.singleton_append, classifyChars_append endsLine_newline]

/-- Printed texts are classified one by one. -/
theorem classifyChars_flatMap_printed (texts : List String) :
    classifyChars (texts.flatMap printed) = texts.flatMap classify := by
  induction texts with
  | nil => rfl
  | cons text texts inductionHypothesis =>
      rw [List.flatMap_cons, classifyChars_printed_append, inductionHypothesis,
        List.flatMap_cons]

/-- Texts joined by line feeds are classified one by one. -/
theorem classifyChars_intercalate (texts : List (List Char)) :
    classifyChars (['\n'].intercalate texts) = texts.flatMap classifyChars := by
  induction texts with
  | nil => rfl
  | cons first texts inductionHypothesis =>
      cases texts with
      | nil => rw [List.intercalate_singleton, List.flatMap_singleton]
      | cons second others =>
          rw [List.flatMap_cons, List.intercalate_cons_cons, List.append_assoc,
            List.singleton_append, classifyChars_append endsLine_newline, inductionHypothesis]

end Diagnostic

namespace Tally

/-- The output of a tally is classified like its lines one by one. -/
theorem classify_output (tally : Tally) :
    Diagnostic.classify tally.output = tally.lines.flatMap Diagnostic.classify := by
  have joined :
      Diagnostic.classify ("\n".intercalate tally.lines) =
        tally.lines.flatMap Diagnostic.classify := by
    rw [Diagnostic.classify, String.toList_intercalate]
    exact (Diagnostic.classifyChars_intercalate _).trans (List.flatMap_map _ _ _)
  unfold output
  dsimp only
  split
  next => exact joined
  next =>
    rw [Diagnostic.classify, String.toList_append]
    exact (Diagnostic.classifyChars_ended Diagnostic.endsLine_newline _).trans joined

end Tally

end InterfaceAudit
