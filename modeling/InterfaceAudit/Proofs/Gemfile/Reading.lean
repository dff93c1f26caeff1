import InterfaceAudit.Preparation
import InterfaceAudit.Proofs.Literal.Containment
import InterfaceAudit.Proofs.Script.Statement
import InterfaceAudit.Proofs.Text.Utf8
import Mathlib.Data.List.Induction

/-!
Contract: the file that lists the gems, read back from its text.

Owns:
- the grammar of the file: a source, an empty line, and one line for each gem;
- the law that the text of a file reads back as the file, to its end;
- the lines of the text, which nothing that is written inside a literal can break;
- what a series of choices asks for, and the law that the text says exactly this.

Does not own: literals, or the installation of what is listed.
-/

namespace InterfaceAudit

namespace Gemfile

open InterfaceAudit.Script (behind? argument? behind?_append behind?_of_differ)

/-! ## The grammar -/

/-- An argument that may be left out, behind the mark that announces it. -/
def optional? (mark : String) (text : List Char) : Option (Option String × List Char) :=
  ((behind? mark text).bind argument?).map (fun read => (some read.1, read.2)) <|>
    some (none, text)

/-- The line of a gem, with what follows it. -/
def gem? (text : List Char) : Option (Gem × List Char) := do
  let text ← behind? "gem " text
  let (name, text) ← argument? text
  let (version, text) ← optional? ", " text
  let (path, text) ← optional? ", path: " text
  let text ← behind? "\n" text
  return ({ name, version, path := path.map Path.ofString }, text)

/-- The gems of a text that holds their lines and nothing else. -/
def gems? (text : List Char) : Option (List Gem) :=
  match text with
  | [] => some []
  | c :: text =>
      match gem? (c :: text) with
      | some (gem, rest) =>
          if rest.length ≤ text.length then (gems? rest).map (gem :: ·) else none
      | none => none
termination_by text.length
decreasing_by exact Nat.lt_succ_of_le ‹_›

/-- The file of a text: the source, an empty line, and the gems to the end. -/
def read? (text : String) : Option Gemfile := do
  let text ← behind? "source " text.toList
  let (source, text) ← argument? text
  let text ← behind? "\n\n" text
  let gems ← gems? text
  return { source, gems }

/-! ## What is written -/

/-- An argument that may be left out, as it is written. -/
def optionalText (mark : String) : Option String → List Char
  | none => []
  | some value => mark.toList ++ Gem.literal value

/-- The line of a gem without the line break. -/
def entry (gem : Gem) : List Char :=
  "gem ".toList ++ (Gem.literal gem.name ++
    (optionalText ", " gem.version ++ optionalText ", path: " (gem.path.map Path.shown)))

theorem line_eq (gem : Gem) : gem.line = entry gem ++ ['\n'] := by
  have comma : ", ".toList = [',', ' '] := by decide
  obtain ⟨name, version, path⟩ := gem
  unfold Gem.line
  cases version <;> cases path <;>
    simp only [entry, optionalText, comma, Option.map_none, Option.map_some, List.append_assoc,
      List.nil_append, List.append_nil]

theorem chars_eq (file : Gemfile) :
    file.chars = "source ".toList ++ (Gem.literal file.source ++
      ("\n\n".toList ++ file.gems.flatMap Gem.line)) := by
  have breaks : "\n\n".toList = ['\n', '\n'] := by decide
  unfold chars
  rw [breaks, List.append_assoc, List.append_assoc]

/-! ## Reading undoes writing -/

theorem argument?_literal (value : String) (rest : List Char) :
    argument? (Gem.literal value ++ rest) = some (value, rest) :=
  Script.argument?_literal value rest

/-- An argument that may be left out is read back, unless it is left out and what
follows looks like it. -/
theorem optional?_optionalText
    {mark : String}
    {value : Option String}
    {rest : List Char}
    (unannounced : (behind? mark rest).bind argument? = none) :
    optional? mark (optionalText mark value ++ rest) = some (value, rest) := by
  cases value with
  | none =>
      rw [optionalText, List.nil_append, optional?, unannounced]
      rfl
  | some value =>
      rw [optionalText, List.append_assoc, optional?, behind?_append, Option.bind_some,
        argument?_literal]
      rfl

/-- A line break announces no argument. -/
theorem unannounced_of_break
    {mark : String}
    (differ : Script.Differ mark "\n")
    (rest : List Char) :
    (behind? mark ("\n".toList ++ rest)).bind argument? = none := by
  rw [behind?_of_differ differ, Option.bind_none]

/-- A path is announced by the mark of a version, but is no version: what stands
behind the mark opens no literal. -/
theorem unannounced_of_path (path : Option String) (rest : List Char) :
    (behind? ", " (optionalText ", path: " path ++ ("\n".toList ++ rest))).bind argument? =
      none := by
  cases path with
  | none => exact unannounced_of_break (by decide) rest
  | some path =>
      have mark : ", path: ".toList = ", ".toList ++ "path: ".toList := by decide
      rw [optionalText, mark, List.append_assoc, List.append_assoc, behind?_append,
        Option.bind_some]
      rfl

theorem gem?_line {gem : Gem} (isUtf8 : ∀ path ∈ gem.path, path.IsUtf8) (rest : List Char) :
    gem? (gem.line ++ rest) = some (gem, rest) := by
  have shape : gem.line ++ rest = "gem ".toList ++ (Gem.literal gem.name ++
      (optionalText ", " gem.version ++ (optionalText ", path: " (gem.path.map Path.shown) ++
        ("\n".toList ++ rest)))) := by
    have ending : "\n".toList = ['\n'] := by decide
    rw [line_eq, entry, ending]
    simp only [List.append_assoc]
  have path : (gem.path.map Path.shown).map Path.ofString = gem.path := by
    cases isPath : gem.path with
    | none => rfl
    | some path => exact congrArg some (Path.ofString_shown (isUtf8 path isPath))
  have noPath : (behind? ", path: " ("\n".toList ++ rest)).bind argument? = none :=
    unannounced_of_break (by decide) rest
  rw [shape]
  simp only [gem?, behind?_append, argument?_literal, optional?_optionalText,
    unannounced_of_path, noPath, path, Option.bind_eq_bind, Option.bind_some]
  rfl

/-- The lines of gems are read one by one. -/
theorem gems?_flatMap_line
    {gems : List Gem}
    (areUtf8 : ∀ gem ∈ gems, ∀ path ∈ gem.path, path.IsUtf8) :
    gems? (gems.flatMap Gem.line) = some gems := by
  induction gems with
  | nil => rw [List.flatMap_nil, gems?]
  | cons gem gems inductionHypothesis =>
      rw [List.forall_mem_cons] at areUtf8
      have first := gem?_line areUtf8.1 (gems.flatMap Gem.line)
      obtain ⟨tail, starts⟩ : ∃ tail, gem.line = 'g' :: tail := ⟨_, rfl⟩
      rw [List.flatMap_cons]
      rw [starts, List.cons_append] at first ⊢
      rw [gems?, first]
      simp [inductionHypothesis areUtf8.2]

/-- The text of a file reads back as the file, and nothing is left over. -/
theorem read?_text
    {file : Gemfile}
    (areUtf8 : ∀ gem ∈ file.gems, ∀ path ∈ gem.path, path.IsUtf8) :
    read? file.text = some file := by
  rw [read?, text, String.toList_ofList, chars_eq]
  simp only [behind?_append, argument?_literal, gems?_flatMap_line areUtf8, Option.bind_eq_bind,
    Option.bind_some]
  rfl

/-! ## The lines of the text -/

theorem not_break_of_not_isControl {text : List Char}
    (plain : ∀ c ∈ text, Text.isControl c = false) : ∀ c ∈ text, (c == '\n') = false := by
  intro c member
  rw [beq_eq_false_iff_ne]
  rintro rfl
  exact absurd (plain _ member) (by decide)

/-- No line of a gem is broken, whatever its strings hold. -/
theorem not_isControl_entry (gem : Gem) : ∀ c ∈ entry gem, Text.isControl c = false := by
  have literal (value : String) : ∀ c ∈ Gem.literal value, Text.isControl c = false :=
    Literal.not_isControl_quoteChars value.toList
  have optional {mark : String} (isPlain : mark.toList.all (fun c => !Text.isControl c) = true)
      (value : Option String) : ∀ c ∈ optionalText mark value, Text.isControl c = false := by
    cases value with
    | none => exact fun c member => absurd member List.not_mem_nil
    | some value =>
        exact List.forall_mem_append.mpr
          ⟨Literal.not_isControl_of_all isPlain, literal value⟩
  exact List.forall_mem_append.mpr ⟨Literal.not_isControl_of_all (by decide),
    List.forall_mem_append.mpr ⟨literal gem.name,
      List.forall_mem_append.mpr ⟨optional (by decide) _, optional (by decide) _⟩⟩⟩

theorem splitFields_flatMap_line (gems : List Gem) :
    Text.splitFields (· == '\n') (gems.flatMap Gem.line) = gems.map entry ++ [[]] := by
  induction gems with
  | nil => rfl
  | cons gem gems inductionHypothesis =>
      rw [List.flatMap_cons, line_eq, List.append_assoc, List.singleton_append,
        Text.splitFields_append_cons (not_break_of_not_isControl (not_isControl_entry gem))
          (by decide), inductionHypothesis]
      rfl

/-- The text has one line for the source, an empty one, and one for each gem. -/
theorem splitFields_chars (file : Gemfile) :
    Text.splitFields (· == '\n') file.chars =
      ("source ".toList ++ Gem.literal file.source) :: [] :: (file.gems.map entry ++ [[]]) := by
  have shape : file.chars = ("source ".toList ++ Gem.literal file.source) ++
      '\n' :: ([] ++ '\n' :: file.gems.flatMap Gem.line) :=
    List.append_assoc _ _ _
  have plain : ∀ c ∈ "source ".toList ++ Gem.literal file.source, Text.isControl c = false :=
    List.forall_mem_append.mpr ⟨Literal.not_isControl_of_all (by decide),
      Literal.not_isControl_quoteChars file.source.toList⟩
  rw [shape, Text.splitFields_append_cons (not_break_of_not_isControl plain) (by decide),
    Text.splitFields_append_cons (fun c member => absurd member List.not_mem_nil) (by decide),
    splitFields_flatMap_line]

end Gemfile

/-! ## What choices ask for -/

namespace BundleChoice

def source? : BundleChoice → Option String
  | .source text => some text
  | _ => none

def subjectVersion? : BundleChoice → Option String
  | .subjectVersion text => some text
  | _ => none

def subjectPath? : BundleChoice → Option Path
  | .subjectPath path => some path
  | _ => none

def gem? : BundleChoice → Option Gem
  | .gem added => some added
  | _ => none

/-- The paths that choices put into the file are text. -/
def AreUtf8 (choices : List BundleChoice) : Prop :=
  (∀ path, .subjectPath path ∈ choices → path.IsUtf8) ∧
    ∀ gem : Gem, .gem gem ∈ choices → ∀ path ∈ gem.path, path.IsUtf8

def last? {α : Type} (kind : BundleChoice → Option α) (choices : List BundleChoice) : Option α :=
  (choices.filterMap kind).getLast?

theorem last?_concat {α : Type} (kind : BundleChoice → Option α) (choices : List BundleChoice)
    (choice : BundleChoice) :
    last? kind (choices ++ [choice]) = (kind choice).or (last? kind choices) := by
  rw [last?, List.filterMap_append]
  cases isKind : kind choice with
  | none => simp [isKind, last?]
  | some value => simp [isKind]

end BundleChoice

namespace Bundle

open BundleChoice (last?)

theorem ofChoices_concat (choices : List BundleChoice) (choice : BundleChoice) :
    ofChoices (choices ++ [choice]) = (ofChoices choices).choose choice := by
  rw [ofChoices, List.foldl_append]
  rfl

/-- The file that choices ask for: the last source, then the subject with its last
version and its last path, then the added gems in order. -/
def requested (choices : List BundleChoice) (subject : String) : Gemfile where
  source := (last? BundleChoice.source? choices).getD "https://rubygems.org"
  gems :=
    { name := subject
      version := last? BundleChoice.subjectVersion? choices
      path := last? BundleChoice.subjectPath? choices } ::
    choices.filterMap BundleChoice.gem?

/-- A choice replaces an earlier one of its kind, or adds a gem, and leaves all
other parts of the file as they are. -/
theorem gemfile_ofChoices (choices : List BundleChoice) (subject : String) :
    (ofChoices choices).gemfile subject = requested choices subject := by
  induction choices using List.reverseRecOn with
  | nil => rfl
  | append_singleton choices choice inductionHypothesis =>
      simp only [gemfile, requested, Gemfile.mk.injEq, List.cons.injEq, Gem.mk.injEq,
        true_and] at inductionHypothesis ⊢
      obtain ⟨source, ⟨version, path⟩, gems⟩ := inductionHypothesis
      simp only [ofChoices_concat, BundleChoice.last?_concat, List.filterMap_append]
      cases choice <;>
        simp [choose, BundleChoice.source?, BundleChoice.subjectVersion?,
          BundleChoice.subjectPath?, BundleChoice.gem?, source, version, path, gems]

theorem isUtf8_of_mem_requested
    {choices : List BundleChoice}
    (areUtf8 : BundleChoice.AreUtf8 choices)
    (subject : String) :
    ∀ gem ∈ (requested choices subject).gems, ∀ path ∈ gem.path, path.IsUtf8 := by
  refine List.forall_mem_cons.mpr ⟨fun path isLast => ?_, fun gem member => ?_⟩
  · have chosen := List.mem_of_getLast? isLast
    obtain ⟨choice, member, isPath⟩ := List.mem_filterMap.mp chosen
    cases choice with
    | subjectPath other =>
        cases isPath
        exact areUtf8.1 path member
    | source | subjectVersion | gem | installCommand | timeoutSecs => cases isPath
  · obtain ⟨choice, member, isGem⟩ := List.mem_filterMap.mp member
    cases choice with
    | gem other =>
        cases isGem
        exact areUtf8.2 gem member
    | source | subjectVersion | subjectPath | installCommand | timeoutSecs => cases isGem

/-- The text of the file says what was chosen and nothing else, whatever the strings
hold. It is read to its end as the last source, the subject with its last version
and path, and the added gems in order; it has a line for the source, an empty one
and a line for each gem; and two series of choices have one text exactly when they
ask for the same. -/
theorem gemfile_says_what_was_chosen
    (choices : List BundleChoice)
    (subject : String)
    (areUtf8 : BundleChoice.AreUtf8 choices) :
    let text := ((ofChoices choices).gemfile subject).text
    Gemfile.read? text = some (requested choices subject) ∧
    Text.splitFields (· == '\n') text.toList =
      ("source ".toList ++ Gem.literal (requested choices subject).source) :: [] ::
        ((requested choices subject).gems.map Gemfile.entry ++ [[]]) ∧
    ∀ (others : List BundleChoice) (other : String), BundleChoice.AreUtf8 others →
      (text = ((ofChoices others).gemfile other).text ↔
        requested choices subject = requested others other) := by
  have isRead {choices : List BundleChoice} (areUtf8 : BundleChoice.AreUtf8 choices)
      (subject : String) : Gemfile.read? (requested choices subject).text =
        some (requested choices subject) :=
    Gemfile.read?_text (isUtf8_of_mem_requested areUtf8 subject)
  simp only [gemfile_ofChoices]
  refine ⟨isRead areUtf8 subject, ?_, fun others other otherUtf8 => ⟨fun same => ?_, ?_⟩⟩
  · rw [Gemfile.text, String.toList_ofList]
    exact Gemfile.splitFields_chars _
  · have twice := isRead areUtf8 subject
    rw [same, isRead otherUtf8 other] at twice
    exact (Option.some.inj twice).symm
  · exact fun same => congrArg Gemfile.text same

/-- A gem whose name and version try to close their literals, to add an argument and to
start another line. -/
def forgedGem : Gem where
  name := "rake\"\ngem \"evil"
  version := some "1\", path: \"/x"

/-- Choices that replace one another, with the forged gem among them. -/
def forgedChoices : List BundleChoice := [
  .source "https://a.example",
  .gem forgedGem,
  .subjectPath (Path.ofString "../é"),
  .source "https://b.example"]

/-- The gems that the forged one looks like. -/
def plainChoices : List BundleChoice := [
  .source "https://b.example",
  .subjectPath (Path.ofString "../é"),
  .gem { name := "rake" },
  .gem { name := "evil", version := some "1", path := some (Path.ofString "/x") }]

theorem gemfile_says_what_was_chosen_of_forgery :
    let text := ((ofChoices forgedChoices).gemfile "foo").text
    text = "source \"https://b.example\"\n\ngem \"foo\", path: \"../é\"\n" ++
      "gem \"rake\\\"\\ngem \\\"evil\", \"1\\\", path: \\\"/x\"\n" ∧
    BundleChoice.AreUtf8 forgedChoices ∧
    Gemfile.read? text = some {
      source := "https://b.example"
      gems := [{ name := "foo", path := some (Path.ofString "../é") }, forgedGem] } ∧
    text ≠ ((ofChoices plainChoices).gemfile "foo").text := by
  have forgedUtf8 : BundleChoice.AreUtf8 forgedChoices := by
    simp [BundleChoice.AreUtf8, forgedChoices, forgedGem, Path.isUtf8_ofString]
  have plainUtf8 : BundleChoice.AreUtf8 plainChoices := by
    simp [BundleChoice.AreUtf8, plainChoices, Path.isUtf8_ofString]
  obtain ⟨isRead, _, identifies⟩ := gemfile_says_what_was_chosen forgedChoices "foo" forgedUtf8
  refine ⟨by decide, forgedUtf8, isRead, fun same => ?_⟩
  have asked := (identifies plainChoices "foo" plainUtf8).mp same
  exact absurd asked (by decide)

end Bundle

end InterfaceAudit
