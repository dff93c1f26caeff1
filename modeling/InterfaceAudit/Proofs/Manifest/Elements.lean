import InterfaceAudit.Manifest.Load
import InterfaceAudit.Proofs.Json.RoundTrip
import InterfaceAudit.Proofs.Session.Recording

/-!
Contract: a manifest is read element by element.

Owns:
- the texts of manifests whose elements are any JSON values;
- the law that such a text is a manifest exactly if each element is an assertion
  by itself, and which manifest it is then;
- the elements that no manifest may hold.

Does not own: which values are assertions.
-/

namespace InterfaceAudit.Manifest

open InterfaceAudit.Json (Draft Enclosed Value Fault IsSpaced Joined IsMember IsJson Spells Denotes
  IsBody inQuotes isSpaced_nil map_eq_ok_iff mapM_eq_ok_iff)

/-! ## Texts of manifests -/

def IsListText (elements : List (List Char)) (text : List Char) : Prop :=
  ∃ inner, Joined elements inner ∧ text = '[' :: (inner ++ [']'])

/-- A text is that of a manifest: an object with the written subject and then the
list of elements, with blanks wherever they may stand. -/
inductive IsText (subject : String) (elements : List (List Char)) : List Char → Prop where
  | spelled {before behind inner list first second : List Char}
      (spacedBefore : IsSpaced before)
      (spacedBehind : IsSpaced behind)
      (isList : IsListText elements list)
      (isSubject : IsMember "subject".toList (Value.quote subject) first)
      (isDirectives : IsMember "directives".toList list second)
      (joined : Joined [first, second] inner) :
      IsText subject elements (before ++ ('{' :: (inner ++ ['}']) ++ behind))

/-- Texts with a comma and a blank between them. -/
def listed (texts : List (List Char)) : List Char :=
  (texts.intersperse [',', ' ']).flatten

/-- A member with a blank behind the colon. -/
def memberText (name : String) (value : List Char) : List Char :=
  inQuotes name.toList ++ ':' :: ' ' :: value

def plainText (subject : String) (elements : List (List Char)) : List Char :=
  '{' :: (listed [
    memberText "subject" (Value.quote subject),
    memberText "directives" ('[' :: (listed elements ++ [']']))] ++ ['}'])

theorem isSpaced_blank : IsSpaced [' '] := by
  simp [IsSpaced, Json.Token.isSpace]

theorem isMember_memberText (name : String) (value : List Char) :
    IsMember name.toList value (memberText name value) :=
  ⟨[], [' '], isSpaced_nil, isSpaced_blank, rfl⟩

theorem joined_blank {text inner : List Char} {others : List (List Char)}
    (joined : Joined (text :: others) inner) : Joined (text :: others) (' ' :: inner) := by
  have isSpaced {before : List Char} (spaced : IsSpaced before) : IsSpaced (' ' :: before) :=
    List.forall_mem_cons.mpr ⟨rfl, spaced⟩
  cases joined with
  | last spacedBefore spacedBehind => exact .last (isSpaced spacedBefore) spacedBehind
  | more spacedBefore spacedBehind joined => exact .more (isSpaced spacedBefore) spacedBehind joined

theorem joined_listed (texts : List (List Char)) : Joined texts (listed texts) := by
  induction texts with
  | nil => exact .empty isSpaced_nil
  | cons text texts inductionHypothesis =>
      cases texts with
      | nil =>
          have last : Joined [text] ([] ++ (text ++ [])) := .last isSpaced_nil isSpaced_nil
          exact last
      | cons next texts => exact .more isSpaced_nil isSpaced_nil (joined_blank inductionHypothesis)

theorem isText_plainText (subject : String) (elements : List (List Char)) :
    IsText subject elements (plainText subject elements) := by
  have isMade := IsText.spelled isSpaced_nil isSpaced_nil ⟨_, joined_listed elements, rfl⟩
    (isMember_memberText "subject" (Value.quote subject)) (isMember_memberText "directives" _)
    (joined_listed [_, _])
  rw [List.nil_append, List.append_nil] at isMade
  exact isMade

/-- How deep elements may be nested. -/
def elementDepth : Nat := 100

def parseElement (element : List Char) : Except Fault Assertion :=
  Assertion.reader.document (String.ofList element)

/-- What a manifest is, with the failure that is reported if it is none. -/
def parse (text : List Char) : Except Failure Manifest :=
  (ofText (String.ofList text)).mapError Failure.manifest

/-- A file that holds a text holds the manifest of this text. -/
theorem ofContent_encode (text : List Char) : ofContent (Utf8.encode text) = parse text := by
  have isText : textOf (Utf8.encode text) = .ok (String.ofList text) := by
    simp only [textOf, Utf8.decode?, Utf8.decodeLossy_encode, if_true]
  rw [ofContent, isText]
  rfl

/-! ## The tree of a manifest -/

def subjectEntry (subject : String) (text : List Char) : Json.Entry where
  key := "subject".toList
  tree := .string ⟨subject.toList.flatMap Value.escape, 1⟩
  value := Value.quote subject
  text := text

def elementsEntry (trees : List Draft) (list text : List Char) : Json.Entry where
  key := "directives".toList
  tree := .list trees .closed
  value := list
  text := text

def treeOf (subject : String) (trees : List Draft) : Draft :=
  .object [(subjectEntry subject []).member, (elementsEntry trees [] []).member] .closed

theorem exists_items
    {elements : List (List Char)}
    (areJson : ∀ element ∈ elements, IsJson elementDepth element) :
    ∃ items : List (Draft × List Char), items.map Prod.snd = elements ∧
      ∀ item ∈ items, Spells elementDepth item.1 item.2 := by
  induction elements with
  | nil => exact ⟨[], rfl, fun _ member => absurd member List.not_mem_nil⟩
  | cons element elements inductionHypothesis =>
      rw [List.forall_mem_cons] at areJson
      obtain ⟨tree, spelled⟩ := areJson.1
      obtain ⟨items, rfl, areSpelled⟩ := inductionHypothesis areJson.2
      exact ⟨(tree, element) :: items, rfl, List.forall_mem_cons.mpr ⟨spelled, areSpelled⟩⟩

/-- The braces of a manifest spell a tree that holds the trees of its elements. -/
theorem spells_treeOf
    {subject : String}
    {items : List (Draft × List Char)}
    {inner list first second : List Char}
    (areSpelled : ∀ item ∈ items, Spells elementDepth item.1 item.2)
    (isList : IsListText (items.map Prod.snd) list)
    (isSubject : IsMember "subject".toList (Value.quote subject) first)
    (isDirectives : IsMember "directives".toList list second)
    (joined : Joined [first, second] inner) :
    Spells (elementDepth + 2) (treeOf subject (items.map Prod.fst)) ('{' :: (inner ++ ['}'])) := by
  obtain ⟨listed, joinedElements, rfl⟩ := isList
  have isKey (name : String) (isPlain : name.toList.flatMap Value.escape = name.toList) :
      IsBody name.toList := isPlain ▸ Value.isBody_flatMap_escape name.toList
  -- The object has two members, and whatever is asked of members is asked of both.
  have forBoth {holds : Json.Entry → Prop}
      (ofSubject : holds (subjectEntry subject first))
      (ofElements : holds (elementsEntry (items.map Prod.fst) ('[' :: (listed ++ [']'])) second)) :=
    List.forall_mem_cons.mpr ⟨ofSubject, List.forall_mem_singleton.mpr ofElements⟩
  exact .object (forBoth (isKey "subject" (by decide)) (isKey "directives" (by decide)))
    (forBoth isSubject isDirectives)
    (forBoth (.string (Value.isBody_flatMap_escape subject.toList))
      (.list areSpelled joinedElements)) joined

/-- A tree that stands for that of a manifest has its members, whatever follows
their strings. -/
theorem exists_members
    {subject : String}
    {trees : List Draft}
    {draft : Draft}
    (isPlain : draft.plain = treeOf subject trees) :
    ∃ subjectKey subjectText listKey items,
      draft = .object [(subjectKey, .string subjectText), (listKey, .list items .closed)] .closed ∧
      subjectKey.read = .ok "subject" ∧ subjectText.read = .ok subject ∧
      listKey.read = .ok "directives" ∧ items.map Draft.plain = trees := by
  obtain ⟨members, rfl, areMembers⟩ := Draft.eq_object_of_plain isPlain
  obtain ⟨⟨subjectKey, subjectTree⟩, others, rfl, isSubject, areOthers⟩ :=
    List.map_eq_cons_iff.mp areMembers
  obtain ⟨⟨listKey, listTree⟩, rest, rfl, isList, areRest⟩ := List.map_eq_cons_iff.mp areOthers
  obtain rfl := List.map_eq_nil_iff.mp areRest
  rw [Json.Entry.member, Prod.mk.injEq] at isSubject isList
  obtain ⟨subjectText, rfl, isText⟩ := Draft.eq_string_of_plain isSubject.2
  obtain ⟨items, rfl, areItems⟩ := Draft.eq_list_of_plain isList.2
  refine ⟨subjectKey, subjectText, listKey, items, rfl, ?_, ?_, ?_, areItems⟩
  · rw [← Enclosed.read_plain, isSubject.1]
    rfl
  · rw [← Enclosed.read_plain, isText]
    exact Value.read_escaped subject
  · rw [← Enclosed.read_plain, isList.1]
    rfl

/-- The room that is left inside the list inside the object. -/
def elementRoom : Nat := Draft.nestingLimit - 2

/-- A reader is given the elements of a manifest one by one. -/
theorem reader_eq
    {subject : String}
    {trees : List Draft}
    {draft : Draft}
    (isPlain : draft.plain = treeOf subject trees) :
    ∃ items : List Draft, items.map Draft.plain = trees ∧
      reader Draft.nestingLimit draft =
        (items.mapM (Assertion.reader elementRoom)).map
          fun assertions => ⟨subject, assertions⟩ := by
  obtain ⟨subjectKey, subjectText, listKey, items, rfl, namesSubject, readsSubject, namesList,
    areItems⟩ := exists_members isPlain
  refine ⟨items, areItems, ?_⟩
  have setsSubject (room : Nat) : (schema room).setMember Draft.skip ⟨(schema room).blank, []⟩
      "subject" (.string subjectText) = .ok ⟨⟨subject, []⟩, ["subject"]⟩ := by
    show (subjectText.read.map _ >>= _) = _
    rw [readsSubject]
    rfl
  have setsList (room : Nat) : (schema room).setMember Draft.skip ⟨⟨subject, []⟩, ["subject"]⟩
      "directives" (.list items .closed) =
        (Json.Reader.list Assertion.reader room (.list items .closed)).map fun assertions =>
          ⟨⟨subject, assertions⟩, ["directives", "subject"]⟩ := by
    show ((Json.Reader.list Assertion.reader room (.list items .closed)).map _ >>= _) = _
    cases Json.Reader.list Assertion.reader room (.list items .closed) <;> rfl
  -- One level of nesting is for the object, another for its list.
  have enters : Draft.enter Draft.nestingLimit = .ok 127 := rfl
  have entersList : Draft.enter 127 = .ok elementRoom := rfl
  simp only [reader, Json.Reader.record, enters, Json.Schema.readObject, List.foldlM_cons,
    List.foldlM_nil, namesSubject, namesList, bind, Except.bind, setsSubject, setsList,
    Json.Reader.list_closed, entersList]
  cases items.mapM (Assertion.reader elementRoom) <;> rfl

/-! ## Elements by themselves and in a manifest -/

/-- An element is an assertion by itself if its tree has a value that is one. -/
theorem parseElement_eq_ok_iff
    {tree : Draft}
    {element : List Char}
    {assertion : Assertion}
    (spelled : Spells elementDepth tree element) :
    parseElement element = .ok assertion ↔
      ∃ value, tree.readValue Draft.nestingLimit = .ok value ∧
        Assertion.IsForm value assertion := by
  obtain ⟨draft, isPlain, isDocument⟩ := spelled.document isSpaced_nil isSpaced_nil
  rw [List.append_nil, List.nil_append] at isDocument
  have fits : elementDepth < Draft.nestingLimit := by decide
  rw [parseElement, isDocument]
  simp only [Assertion.reader_eq_ok_iff, spelled.readValue_iff isPlain fits fits]

/-- A tree in a manifest is read as its element is by itself. -/
theorem reader_item_eq_ok_iff
    {tree item : Draft}
    {element : List Char}
    {assertion : Assertion}
    (spelled : Spells elementDepth tree element)
    (isPlain : item.plain = tree) :
    Assertion.reader elementRoom item = .ok assertion ↔ parseElement element = .ok assertion := by
  have fits : elementDepth < Draft.nestingLimit := by decide
  have fitsInside : elementDepth < elementRoom := by decide
  rw [parseElement_eq_ok_iff spelled]
  simp only [Assertion.reader_eq_ok_iff, spelled.readValue_iff isPlain fitsInside fits]

theorem forall₂_reader_iff
    {drafts : List Draft}
    {items : List (Draft × List Char)}
    (arePlain : drafts.map Draft.plain = items.map Prod.fst)
    (areSpelled : ∀ item ∈ items, Spells elementDepth item.1 item.2)
    {assertions : List Assertion} :
    List.Forall₂ (fun draft assertion => Assertion.reader elementRoom draft = .ok assertion)
        drafts assertions ↔
      List.Forall₂ (fun element assertion => parseElement element = .ok assertion)
        (items.map Prod.snd) assertions := by
  induction items generalizing drafts assertions with
  | nil =>
      obtain rfl := List.map_eq_nil_iff.mp arePlain
      simp only [List.map_nil, List.forall₂_nil_left_iff]
  | cons item items inductionHypothesis =>
      rw [List.map_cons] at arePlain
      obtain ⟨draft, others, rfl, isPlain, areOthers⟩ := List.map_eq_cons_iff.mp arePlain
      rw [List.forall_mem_cons] at areSpelled
      simp only [List.map_cons, List.forall₂_cons_left_iff,
        reader_item_eq_ok_iff areSpelled.1 isPlain, inductionHypothesis areOthers areSpelled.2]

section Elements

variable {subject : String} {elements : List (List Char)} {text : List Char}

/-- A text is a manifest exactly if its elements are assertions, one for one. -/
theorem ofText_eq_ok_iff
    (areJson : ∀ element ∈ elements, IsJson elementDepth element)
    (isText : IsText subject elements text)
    {manifest : Manifest} :
    ofText (String.ofList text) = .ok manifest ↔
      manifest.subject = subject ∧
      List.Forall₂ (fun element assertion => parseElement element = .ok assertion)
        elements manifest.assertions := by
  obtain ⟨spacedBefore, spacedBehind, isList, isSubject, isDirectives, joined⟩ := isText
  -- The text spells one tree, and the elements are subtrees of it.
  obtain ⟨items, rfl, areSpelled⟩ := exists_items areJson
  have spelled := spells_treeOf areSpelled isList isSubject isDirectives joined
  obtain ⟨draft, isPlain, isDocument⟩ := spelled.document spacedBefore spacedBehind
  obtain ⟨drafts, arePlain, isRead⟩ := reader_eq isPlain
  rw [ofText, isDocument reader, isRead, map_eq_ok_iff]
  simp only [mapM_eq_ok_iff, forall₂_reader_iff arePlain areSpelled]
  constructor
  · rintro ⟨assertions, areAssertions, rfl⟩
    exact ⟨rfl, areAssertions⟩
  · rintro ⟨rfl, areAssertions⟩
    exact ⟨manifest.assertions, areAssertions, rfl⟩

/-- An element that no manifest may hold: it has no value, or it is an object and
something is wrong with its members. -/
inductive IsFaulty (element : List Char) : Prop where
  | noValue (none : ∀ value, ¬Denotes element value)
  | flawed {members : List (String × Value)}
      (denotes : Denotes element (.object members))
      (flaw : Assertion.Flawed members)

theorem parseElement_ne_ok
    {element : List Char}
    (isJson : IsJson elementDepth element)
    (isFaulty : IsFaulty element)
    (assertion : Assertion) :
    parseElement element ≠ .ok assertion := by
  intro isOk
  cases isFaulty with
  | noValue none =>
      obtain ⟨tree, spelled⟩ := isJson
      obtain ⟨value, isValue, _⟩ := (parseElement_eq_ok_iff spelled).mp isOk
      exact none value ⟨elementDepth, tree, by decide, spelled, isValue⟩
  | flawed denotes flaw =>
      obtain ⟨draft, isValue, isDocument⟩ := denotes.document
      rw [parseElement, isDocument, Assertion.reader_eq_ok_iff] at isOk
      obtain ⟨value, isOther, isForm⟩ := isOk
      rw [isValue] at isOther
      cases isOther
      cases isForm with
      | object describes => exact Assertion.exists_describes_iff.mp ⟨assertion, describes⟩ flaw

theorem parse_eq_ok_iff {manifest : Manifest} :
    parse text = .ok manifest ↔ ofText (String.ofList text) = .ok manifest := by
  rw [parse]
  cases ofText (String.ofList text) <;> simp [Except.mapError]

/-- Whatever cannot be parsed is reported as a faulty manifest. -/
theorem exists_parse_error (isNone : ∀ manifest, parse text ≠ .ok manifest) :
    ∃ fault, parse text = .error (.manifest fault) := by
  rw [parse] at isNone ⊢
  cases isParsed : ofText (String.ofList text) with
  | error fault => exact ⟨fault, rfl⟩
  | ok manifest =>
      rw [isParsed] at isNone
      exact absurd rfl (isNone manifest)

/-- A manifest loses no element and accepts no faulty one. It can be read exactly
if every element is an assertion by itself; it then holds these assertions in
order, and a session to which it is applied holds them behind its own. With a
faulty element nothing is read. All this holds alike of a file with the text in it. -/
theorem parse_of_elements
    (areJson : ∀ element ∈ elements, IsJson elementDepth element)
    (isText : IsText subject elements text) :
    ((∃ manifest, parse text = .ok manifest) ↔
      ∀ element ∈ elements, ∃ assertion, parseElement element = .ok assertion) ∧
    (∀ manifest, parse text = .ok manifest →
      manifest.subject = subject ∧
      manifest.assertions.length = elements.length ∧
      List.Forall₂ (fun element assertion => parseElement element = .ok assertion)
        elements manifest.assertions ∧
      ∀ session : Session, session.applyManifest manifest =
        { session with assertions := session.assertions ++ manifest.assertions }) ∧
    ((∃ element ∈ elements, IsFaulty element) →
      ∃ fault, parse text = .error (.manifest fault)) ∧
    ofContent (Utf8.encode text) = parse text := by
  have isParsed {manifest : Manifest} : parse text = .ok manifest ↔
      manifest.subject = subject ∧ List.Forall₂
        (fun element assertion => parseElement element = .ok assertion) elements
        manifest.assertions :=
    parse_eq_ok_iff.trans (ofText_eq_ok_iff areJson isText)
  have isSome : (∃ manifest, parse text = .ok manifest) ↔
      ∀ element ∈ elements, ∃ assertion, parseElement element = .ok assertion := by
    rw [← Json.exists_forall₂_iff]
    constructor
    · rintro ⟨manifest, isOk⟩
      exact ⟨_, (isParsed.mp isOk).2⟩
    · rintro ⟨assertions, areAssertions⟩
      exact ⟨⟨subject, assertions⟩, isParsed.mpr ⟨rfl, areAssertions⟩⟩
  refine ⟨isSome, fun manifest isOk => ?_, fun ⟨element, member, isFaulty⟩ => ?_,
    ofContent_encode text⟩
  · obtain ⟨isSubject, areAssertions⟩ := isParsed.mp isOk
    exact ⟨isSubject, areAssertions.length_eq.symm, areAssertions,
      fun session => session.applyManifest_eq manifest⟩
  · refine exists_parse_error fun manifest isOk => ?_
    obtain ⟨assertion, isAssertion⟩ := isSome.mp ⟨manifest, isOk⟩ element member
    exact parseElement_ne_ok (areJson element member) isFaulty assertion isAssertion

end Elements

def soundElement : Value :=
  (Assertion.require "a").toJson

def strangeElement : Value :=
  .object [("kind", .string "field"), ("name", .string "y")]

theorem parse_of_strange_element :
    String.ofList (plainText "x" [soundElement.compact, strangeElement.compact]) =
      "\x7b\"subject\": \"x\", \"directives\": [" ++
        "\x7b\"kind\":\"require\",\"name\":\"a\"\x7d, " ++
        "\x7b\"kind\":\"field\",\"name\":\"y\"\x7d]\x7d" ∧
    (∃ manifest, parse (plainText "x" [soundElement.compact]) = .ok manifest) ∧
    ∃ fault, parse (plainText "x" [soundElement.compact, strangeElement.compact]) =
      .error (.manifest fault) := by
  have isJson : IsJson elementDepth soundElement.compact := (Assertion.writable_toJson 99 _).isJson
  have isAssertion : parseElement soundElement.compact = .ok (.require "a") :=
    (Assertion.reads_toJson _).document (Assertion.writable_toJson 0 _) (by decide)
  have writable : Json.Writable elementDepth strangeElement := by
    refine .object ?_
    simp [Json.Writable.string]
  have unknown (kind : Assertion.Kind) : Value.string "field" ≠ .string kind.name := by
    cases kind <;> simp [Assertion.Kind.name]
  have isFaulty : IsFaulty strangeElement.compact :=
    .flawed (writable.denotes (by decide)) (.unknownKind (by simp [Json.valuesOf]) unknown)
  have alone := parse_of_elements (List.forall_mem_singleton.mpr isJson) (isText_plainText "x" _)
  have both := parse_of_elements
    (List.forall_mem_cons.mpr ⟨isJson, List.forall_mem_singleton.mpr writable.isJson⟩)
    (isText_plainText "x" _)
  exact ⟨by decide, alone.1.mpr (List.forall_mem_singleton.mpr ⟨_, isAssertion⟩),
    both.2.2.1 ⟨_, List.mem_cons_of_mem _ List.mem_cons_self, isFaulty⟩⟩

end InterfaceAudit.Manifest
