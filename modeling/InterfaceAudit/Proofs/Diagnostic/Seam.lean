import InterfaceAudit.Proofs.Diagnostic.LineEnds

/-!
Contract: two outputs that are put one behind the other and classified as one.

Owns:
- what of a text stands behind its last line break, and what in front of its first;
- the law that classification takes two outputs apart again everywhere but at the
  seam, where the line that was left open goes on;
- when two outputs fuse, which is when taking them apart fails.

Does not own: how the outputs were captured.
-/

namespace InterfaceAudit

namespace Diagnostic

/-- What stands behind the last line break of a text. -/
def lastLine (text : List Char) : List Char :=
  (text.reverse.takeWhile fun c => !endsLine c).reverse

/-- What stands in front of the first line break of a text. -/
def firstLine (text : List Char) : List Char :=
  text.takeWhile fun c => !endsLine c

/-- One output leaves its last line open, and the other goes on with something
visible. -/
def Fuse (first second : String) : Prop :=
  lastLine first.toList ≠ [] ∧ ∃ c ∈ firstLine second.toList, Text.isBlank c = false

instance (first second : String) : Decidable (Fuse first second) :=
  inferInstanceAs (Decidable (_ ∧ _))

/-! ## Texts at their line breaks -/

theorem not_endsLine_of_mem_firstLine (text : List Char) :
    ∀ c ∈ firstLine text, endsLine c = false := by
  intro c member
  have goesOn := List.all_eq_true.mp List.all_takeWhile c member
  rwa [Bool.not_eq_true'] at goesOn

theorem not_endsLine_of_mem_lastLine (text : List Char) :
    ∀ c ∈ lastLine text, endsLine c = false := by
  intro c member
  exact not_endsLine_of_mem_firstLine text.reverse c (List.mem_reverse.mp member)

/-- What a search for a line break leaves over is nothing, or starts with one. -/
theorem endsLine_of_dropWhile_eq_cons
    {text others : List Char}
    {c : Char}
    (left : text.dropWhile (fun d => !endsLine d) = c :: others) :
    endsLine c = true := by
  have stops := List.head?_dropWhile_not (fun d => !endsLine d) text
  rw [left] at stops
  exact (Bool.not_eq_false' _).mp stops

/-- Whatever follows the last line break of a text is classified by itself. -/
theorem exists_eq_append_lastLine (text : List Char) :
    ∃ ended,
      text = ended ++ lastLine text ∧
      ∀ rest, classifyChars (ended ++ rest) = classifyChars ended ++ classifyChars rest := by
  let left := text.reverse.dropWhile fun c => !endsLine c
  refine ⟨left.reverse, ?_, ?_⟩
  · rw [lastLine, ← List.reverse_append, List.takeWhile_append_dropWhile, List.reverse_reverse]
  · intro rest
    cases isLeft : left with
    | nil => rfl
    | cons c others =>
        have ends : endsLine c = true := endsLine_of_dropWhile_eq_cons isLeft
        rw [List.reverse_cons, classifyChars_ended ends, List.append_assoc, List.singleton_append,
          classifyChars_append ends]

/-- Whatever precedes the first line break of a text is classified by itself. -/
theorem exists_eq_firstLine_append (text : List Char) :
    ∃ later,
      text = firstLine text ++ later ∧
      ∀ front, classifyChars (front ++ later) = classifyChars front ++ classifyChars later := by
  let left := text.dropWhile fun c => !endsLine c
  refine ⟨left, List.takeWhile_append_dropWhile.symm, ?_⟩
  intro front
  cases isLeft : left with
  | nil => rw [List.append_nil, classifyChars_nil, List.append_nil]
  | cons c others =>
      have ends : endsLine c = true := endsLine_of_dropWhile_eq_cons isLeft
      have alone : classifyChars (c :: others) = classifyChars others :=
        classifyChars_append ends [] others
      rw [classifyChars_append ends, alone]

/-! ## One line -/

theorem classifyChars_append_blanks
    {line blanks : List Char}
    (unbroken : ∀ c ∈ line ++ blanks, endsLine c = false)
    (areBlank : ∀ c ∈ blanks, Text.isBlank c = true) :
    classifyChars (line ++ blanks) = classifyChars line := by
  have lineUnbroken : ∀ c ∈ line, endsLine c = false := fun c member =>
    unbroken c (List.mem_append_left blanks member)
  rw [classifyChars_eq, classifyChars_eq, Text.splitFields_of_forall_not unbroken,
    Text.splitFields_of_forall_not lineUnbroken, linesOf, linesOf, List.map_singleton,
    List.map_singleton, Text.trimEnd_append_blanks line areBlank]

theorem ofLine_injective : Function.Injective ofLine := by
  intro left right same
  exact String.ofList_injective (congrArg Diagnostic.text same)

/-- A line is no more than its two parts if there is no first part or if nothing is
visible in the second, and only then. -/
theorem classifyChars_line_append_eq_iff
    {left right : List Char}
    (leftUnbroken : ∀ c ∈ left, endsLine c = false)
    (rightUnbroken : ∀ c ∈ right, endsLine c = false) :
    classifyChars (left ++ right) = classifyChars left ++ classifyChars right ↔
      left = [] ∨ ∀ c ∈ right, Text.isBlank c = true := by
  have unbroken : ∀ c ∈ left ++ right, endsLine c = false :=
    List.forall_mem_append.mpr ⟨leftUnbroken, rightUnbroken⟩
  by_cases visible : ∃ c ∈ right, Text.isBlank c = false
  · have whole : classifyChars (left ++ right) = [ofLine (left ++ Text.trimEnd right)] := by
      obtain ⟨c, member, isVisible⟩ := visible
      rw [classifyChars_of_visible unbroken ⟨c, List.mem_append_right left member, isVisible⟩,
        Text.trimEnd_append_of_visible left ⟨c, member, isVisible⟩]
    rw [whole, classifyChars_of_visible rightUnbroken visible]
    constructor
    · intro same
      have sameLast := congrArg List.getLast? same
      rw [List.getLast?_append, List.getLast?_singleton, List.getLast?_singleton,
        Option.some_or] at sameLast
      have sameLine := ofLine_injective (Option.some.inj sameLast)
      exact .inl (List.append_left_eq_self.mp sameLine)
    · rintro (isEmpty | areBlank)
      · rw [isEmpty]
        rfl
      · obtain ⟨c, member, isVisible⟩ := visible
        rw [areBlank c member] at isVisible
        cases isVisible
  · have areBlank : ∀ c ∈ right, Text.isBlank c = true := by
      intro c member
      exact Bool.of_not_eq_false fun isVisible => visible ⟨c, member, isVisible⟩
    have nothing : classifyChars ([] ++ right) = classifyChars [] :=
      classifyChars_append_blanks rightUnbroken areBlank
    rw [List.nil_append, classifyChars_nil] at nothing
    rw [classifyChars_append_blanks unbroken areBlank, nothing, List.append_nil]
    exact ⟨fun _ => .inr areBlank, fun _ => rfl⟩

/-! ## The seam -/

/-- Two outputs in sequence are classified like each of them, but for the seam:
there the last line of the one and the first line of the other are one line. -/
theorem classify_seam (first second : String) :
    ∃ ended later,
      first.toList = ended ++ lastLine first.toList ∧
      second.toList = firstLine second.toList ++ later ∧
      classify first = classifyChars ended ++ classifyChars (lastLine first.toList) ∧
      classify second = classifyChars (firstLine second.toList) ++ classifyChars later ∧
      classify (first ++ second) =
        classifyChars ended ++
          (classifyChars (lastLine first.toList ++ firstLine second.toList) ++
            classifyChars later) := by
  obtain ⟨ended, isFirst, endedApart⟩ := exists_eq_append_lastLine first.toList
  obtain ⟨later, isSecond, laterApart⟩ := exists_eq_firstLine_append second.toList
  refine ⟨ended, later, isFirst, isSecond, ?_, ?_, ?_⟩
  · rw [classify, ← endedApart, ← isFirst]
  · rw [classify, ← laterApart, ← isSecond]
  · rw [classify, String.toList_append, ← laterApart, ← endedApart, List.append_assoc, ← isSecond,
      ← List.append_assoc, ← isFirst]

/-- Classification takes two outputs apart again if they do not fuse, and only
then. -/
theorem classify_append_eq_iff (first second : String) :
    classify (first ++ second) = classify first ++ classify second ↔ ¬Fuse first second := by
  obtain ⟨ended, later, _, _, isFirst, isSecond, isWhole⟩ := classify_seam first second
  have atSeam := classifyChars_line_append_eq_iff
    (not_endsLine_of_mem_lastLine first.toList) (not_endsLine_of_mem_firstLine second.toList)
  rw [isWhole, isFirst, isSecond, List.append_assoc, List.append_cancel_left_eq,
    ← List.append_assoc, List.append_cancel_right_eq, atSeam, Fuse, not_and_or, not_not]
  refine or_congr_right ⟨fun areBlank => ?_, fun invisible => ?_⟩
  · rintro ⟨c, member, isVisible⟩
    rw [areBlank c member] at isVisible
    cases isVisible
  · intro c member
    exact Bool.of_not_eq_false fun isVisible => invisible ⟨c, member, isVisible⟩

end Diagnostic

end InterfaceAudit
