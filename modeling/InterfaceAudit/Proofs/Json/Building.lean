import InterfaceAudit.Proofs.Json.Scanning

/-!
Contract: the tree that is built from a spelled text.

Owns:
- trees apart from what stands behind their strings;
- the law that the builder takes the text of a tree for that tree, whatever
  surrounds it;
- the tree of a whole document.

Does not own: what the tree is read as.

A string carries how much text follows it, so one text gives two trees in two
places. `plain` forgets the difference.
-/

namespace InterfaceAudit.Json

/-! ## Trees apart from their surroundings -/

/-- A body that says of what follows it only whether there is anything. -/
def Enclosed.plain (text : Enclosed) : Enclosed :=
  { text with beyond := min 1 text.beyond }

namespace Draft

mutual

/-- A tree whose strings say only whether anything follows them. -/
def plain : Draft → Draft
  | .word w => .word w
  | .number n => .number n
  | .string s => .string s.plain
  | .list items ending => .list (plainItems items) ending
  | .object members ending => .object (plainMembers members) ending
  | .broken breach => .broken breach

def plainItems : List Draft → List Draft
  | [] => []
  | item :: items => plain item :: plainItems items

def plainMembers : List (Enclosed × Draft) → List (Enclosed × Draft)
  | [] => []
  | (key, value) :: members => (key.plain, plain value) :: plainMembers members

end

theorem plainItems_eq_map (items : List Draft) : plainItems items = items.map plain := by
  induction items with
  | nil => rfl
  | cons item items inductionHypothesis => rw [plainItems, inductionHypothesis, List.map_cons]

theorem plainMembers_eq_map (members : List (Enclosed × Draft)) :
    plainMembers members = members.map fun member => (member.1.plain, member.2.plain) := by
  induction members with
  | nil => rfl
  | cons member members inductionHypothesis =>
      rw [plainMembers, inductionHypothesis, List.map_cons]

theorem eq_string_of_plain {draft : Draft} {text : Enclosed}
    (isPlain : draft.plain = .string text) :
    ∃ own, draft = .string own ∧ own.plain = text := by
  cases draft <;> rw [plain] at isPlain <;> cases isPlain
  exact ⟨_, rfl, rfl⟩

theorem eq_list_of_plain {draft : Draft} {items : List Draft} {ending : Ending}
    (isPlain : draft.plain = .list items ending) :
    ∃ own, draft = .list own ending ∧ own.map plain = items := by
  cases draft <;> rw [plain] at isPlain <;> cases isPlain
  exact ⟨_, rfl, (plainItems_eq_map _).symm⟩

theorem eq_object_of_plain {draft : Draft} {members : List (Enclosed × Draft)} {ending : Ending}
    (isPlain : draft.plain = .object members ending) :
    ∃ own, draft = .object own ending ∧
      own.map (fun member => (member.1.plain, member.2.plain)) = members := by
  cases draft <;> rw [plain] at isPlain <;> cases isPlain
  exact ⟨_, rfl, (plainMembers_eq_map _).symm⟩

end Draft

/-! ## The builder over a text -/

namespace Builder

def after (builder : Builder) (text : List Char) : Builder :=
  (Token.scan text).foldl step builder

theorem after_append_of_spaced
    {blanks : List Char}
    (spaced : IsSpaced blanks)
    (builder : Builder)
    (rest : List Char) :
    builder.after (blanks ++ rest) = builder.after rest := by
  rw [after, Token.scan_append_of_spaced spaced]
  rfl

theorem after_cons_of_mark
    {c : Char}
    (token : Token)
    (isMark : Token.start c = (some token, .between))
    (builder : Builder)
    (rest : List Char) :
    builder.after (c :: rest) = (builder.step token).after rest := by
  rw [after, Token.scan_cons_of_mark isMark]
  rfl

/-- A builder that wants a value: whatever starts one is taken as such. -/
def Wants (builder : Builder) (stack : List Frame) : Prop :=
  ∀ token, token ≠ .closeList → builder.step token = takeValue stack token

theorem wants_value (stack : List Frame) : (Builder.open stack .value).Wants stack :=
  fun _ _ => rfl

theorem wants_firstItem (items : List Draft) (stack : List Frame) :
    (Builder.open (.list items :: stack) .firstItem).Wants (.list items :: stack) := by
  intro token isStart
  cases token with
  | closeList => exact absurd rfl isStart
  | _ => rfl

def WantsKey
    (builder : Builder)
    (members : List (Enclosed × Draft))
    (stack : List Frame) :
    Prop :=
  ∀ key, builder.step (.string key) = .open (.member members key :: stack) .colon

end Builder

/-! ## Values -/

/-- The text of a tree is taken for that tree, in front of anything that
delimits it and wherever a value is wanted. -/
def IsTaken (tree : Draft) (text : List Char) : Prop :=
  ∀ rest, Delimits rest → ∃ draft : Draft, draft.plain = tree ∧
    ∀ (builder : Builder) (stack : List Frame), builder.Wants stack →
      builder.after (text ++ rest) = (Builder.complete draft stack).after rest

theorem delimits_mark {c : Char} (isMark : c ∈ [',', ':', ']', '}']) (rest : List Char) :
    Delimits (c :: rest) := by
  intro d isHead
  cases isHead
  exact .inr isMark

namespace Builder

open Token (scan_word scan_number scan_string one_le_bytesBeyond)

theorem isTaken_word (word : Word) : IsTaken (.word word) word.letters := by
  intro rest _
  refine ⟨.word word, rfl, fun builder stack wants => ?_⟩
  rw [after, scan_word, List.foldl_cons, wants _ (by simp)]
  rfl

theorem isTaken_number {numeral : Numeral} {text : List Char}
    (spelled : SpellsNumeral numeral text) : IsTaken (.number numeral) text := by
  intro rest delimits
  refine ⟨.number numeral, rfl, fun builder stack wants => ?_⟩
  rw [after, scan_number spelled delimits, List.foldl_cons, wants _ (by simp)]
  rfl

theorem plain_read (body rest : List Char) :
    Enclosed.plain ⟨body, Token.bytesBeyond rest⟩ = ⟨body, 1⟩ := by
  have more := one_le_bytesBeyond rest
  rw [Enclosed.plain, Nat.min_eq_left more]

theorem isTaken_string {body : List Char} (isBody : IsBody body) :
    IsTaken (.string ⟨body, 1⟩) (inQuotes body) := by
  intro rest _
  refine ⟨.string ⟨body, Token.bytesBeyond rest⟩, ?_, fun builder stack wants => ?_⟩
  · rw [Draft.plain, plain_read]
  · rw [after, scan_string isBody, List.foldl_cons, wants _ (by simp)]
    rfl

/-! ## Items -/

/-- Items are put to the list around them, up to its closing bracket. -/
theorem after_items
    {items : List (Draft × List Char)}
    {inner : List Char}
    (each : ∀ item ∈ items, IsTaken item.1 item.2)
    (joined : Joined (items.map Prod.snd) inner)
    (notEmpty : items ≠ [])
    (rest : List Char) :
    ∃ drafts : List Draft, drafts.map Draft.plain = items.map Prod.fst ∧
      ∀ (builder : Builder) (before : List Draft) (stack : List Frame),
        builder.Wants (.list before :: stack) →
        builder.after (inner ++ ']' :: rest) =
          (complete (.list (before.reverse ++ drafts) .closed) stack).after rest := by
  -- What stands behind an item decides its tree, so the trees are found before the builder.
  induction items generalizing inner with
  | nil => exact absurd rfl notEmpty
  | cons item items inductionHypothesis =>
      have taken := each item List.mem_cons_self
      cases items with
      | nil =>
          cases joined with
          | @last _ blanks behind spacedBefore spacedBehind =>
              obtain ⟨draft, isPlain, builds⟩ := taken (behind ++ ']' :: rest)
                (.append spacedBehind (delimits_mark (by simp) rest))
              refine ⟨[draft], by rw [List.map_singleton, isPlain]; rfl, ?_⟩
              intro builder before stack wants
              rw [List.append_assoc, List.append_assoc, after_append_of_spaced spacedBefore,
                builds builder _ wants, after_append_of_spaced spacedBehind,
                after_cons_of_mark .closeList rfl, ← List.reverse_cons]
              rfl
      | cons next items =>
          cases joined with
          | @more _ _ blanks behind inner _ spacedBefore spacedBehind others =>
              obtain ⟨draft, isPlain, builds⟩ := taken (behind ++ ',' :: (inner ++ ']' :: rest))
                (.append spacedBehind (delimits_mark (by simp) _))
              obtain ⟨drafts, arePlain, buildsOthers⟩ := inductionHypothesis
                (fun other member => each other (List.mem_cons_of_mem _ member)) others
                (List.cons_ne_nil _ _)
              refine ⟨draft :: drafts, by rw [List.map_cons, isPlain, arePlain]; rfl, ?_⟩
              intro builder before stack wants
              simp only [List.append_assoc, List.cons_append]
              rw [after_append_of_spaced spacedBefore, builds builder _ wants,
                after_append_of_spaced spacedBehind, after_cons_of_mark .comma rfl]
              refine (buildsOthers _ (draft :: before) stack (wants_value _)).trans ?_
              rw [List.reverse_cons, List.append_assoc, List.singleton_append]

theorem isTaken_list
    {items : List (Draft × List Char)}
    {inner : List Char}
    (each : ∀ item ∈ items, IsTaken item.1 item.2)
    (joined : Joined (items.map Prod.snd) inner) :
    IsTaken (.list (items.map Prod.fst) .closed) ('[' :: (inner ++ [']'])) := by
  intro rest _
  have opens (builder : Builder) (stack : List Frame) (wants : builder.Wants stack) :
      builder.after ('[' :: (inner ++ [']']) ++ rest) =
        (Builder.open (.list [] :: stack) .firstItem).after (inner ++ ']' :: rest) := by
    rw [List.cons_append, List.append_assoc, after_cons_of_mark .openList rfl,
      wants _ (by simp)]
    rfl
  by_cases isEmpty : items = []
  · subst isEmpty
    cases joined with
    | empty spaced =>
        refine ⟨.list [] .closed, rfl, fun builder stack wants => ?_⟩
        rw [opens builder stack wants, after_append_of_spaced spaced,
          after_cons_of_mark .closeList rfl]
        rfl
  · obtain ⟨drafts, arePlain, builds⟩ := after_items each joined isEmpty rest
    refine ⟨.list drafts .closed, ?_, fun builder stack wants => ?_⟩
    · rw [Draft.plain, Draft.plainItems_eq_map, arePlain]
    · rw [opens builder stack wants, builds _ [] stack (wants_firstItem [] stack)]
      rfl

/-! ## Members -/

/-- A member is put to the object around it. -/
theorem after_member
    {entry : Entry}
    (isBody : IsBody entry.key)
    (isMember : IsMember entry.key entry.value entry.text)
    (taken : IsTaken entry.tree entry.value)
    {rest : List Char}
    (delimits : Delimits rest) :
    ∃ member : Enclosed × Draft, (member.1.plain, member.2.plain) = entry.member ∧
      ∀ (builder : Builder) (before : List (Enclosed × Draft)) (stack : List Frame),
        builder.WantsKey before stack →
        builder.after (entry.text ++ rest) =
          (Builder.open (.object (member :: before) :: stack) .next).after rest := by
  obtain ⟨blanks, behind, spacedBlanks, spacedBehind, isText⟩ := isMember
  obtain ⟨draft, isPlain, builds⟩ := taken rest delimits
  refine ⟨(⟨entry.key, Token.bytesBeyond (blanks ++ ':' :: (behind ++ (entry.value ++ rest)))⟩,
    draft), ?_, fun builder before stack wants => ?_⟩
  · rw [plain_read, isPlain, Entry.member]
  · rw [isText]
    simp only [List.append_assoc, List.cons_append]
    rw [after, scan_string isBody, List.foldl_cons, wants]
    refine (after_append_of_spaced spacedBlanks _ _).trans ?_
    rw [after_cons_of_mark .colon rfl]
    refine (after_append_of_spaced spacedBehind _ _).trans ?_
    exact builds _ _ (wants_value _)

/-- Members are put to the object around them, up to its closing brace. -/
theorem after_members
    {entries : List Entry}
    {inner : List Char}
    (keys : ∀ entry ∈ entries, IsBody entry.key)
    (members : ∀ entry ∈ entries, IsMember entry.key entry.value entry.text)
    (each : ∀ entry ∈ entries, IsTaken entry.tree entry.value)
    (joined : Joined (entries.map Entry.text) inner)
    (notEmpty : entries ≠ [])
    (rest : List Char) :
    ∃ taken : List (Enclosed × Draft),
      Draft.plainMembers taken = entries.map Entry.member ∧
      ∀ (builder : Builder) (before : List (Enclosed × Draft)) (stack : List Frame),
        builder.WantsKey before stack →
        builder.after (inner ++ '}' :: rest) =
          (complete (.object (before.reverse ++ taken) .closed) stack).after rest := by
  induction entries generalizing inner with
  | nil => exact absurd rfl notEmpty
  | cons entry entries inductionHypothesis =>
      have first (rest : List Char) (delimits : Delimits rest) :=
        after_member (keys entry List.mem_cons_self) (members entry List.mem_cons_self)
          (each entry List.mem_cons_self) delimits
      cases entries with
      | nil =>
          cases joined with
          | @last _ blanks behind spacedBefore spacedBehind =>
              obtain ⟨member, isPlain, builds⟩ := first (behind ++ '}' :: rest)
                (.append spacedBehind (delimits_mark (by simp) rest))
              refine ⟨[member], by rw [List.map_singleton, ← isPlain]; rfl, ?_⟩
              intro builder before stack wants
              rw [List.append_assoc, List.append_assoc, after_append_of_spaced spacedBefore,
                builds builder before stack wants, after_append_of_spaced spacedBehind,
                after_cons_of_mark .closeObject rfl, ← List.reverse_cons]
              rfl
      | cons next entries =>
          cases joined with
          | @more _ _ blanks behind inner _ spacedBefore spacedBehind others =>
              obtain ⟨member, isPlain, builds⟩ :=
                first (behind ++ ',' :: (inner ++ '}' :: rest))
                  (.append spacedBehind (delimits_mark (by simp) _))
              obtain ⟨taken, arePlain, buildsOthers⟩ := inductionHypothesis
                (fun other isOther => keys other (List.mem_cons_of_mem _ isOther))
                (fun other isOther => members other (List.mem_cons_of_mem _ isOther))
                (fun other isOther => each other (List.mem_cons_of_mem _ isOther)) others
                (List.cons_ne_nil _ _)
              refine ⟨member :: taken, ?_, ?_⟩
              · rw [List.map_cons, ← isPlain, ← arePlain]
                rfl
              · intro builder before stack wants
                simp only [List.append_assoc, List.cons_append]
                rw [after_append_of_spaced spacedBefore, builds builder before stack wants,
                  after_append_of_spaced spacedBehind, after_cons_of_mark .comma rfl]
                refine (buildsOthers _ (member :: before) stack fun _ => rfl).trans ?_
                rw [List.reverse_cons, List.append_assoc, List.singleton_append]

theorem isTaken_object
    {entries : List Entry}
    {inner : List Char}
    (keys : ∀ entry ∈ entries, IsBody entry.key)
    (members : ∀ entry ∈ entries, IsMember entry.key entry.value entry.text)
    (each : ∀ entry ∈ entries, IsTaken entry.tree entry.value)
    (joined : Joined (entries.map Entry.text) inner) :
    IsTaken (.object (entries.map Entry.member) .closed) ('{' :: (inner ++ ['}'])) := by
  intro rest _
  have opens (builder : Builder) (stack : List Frame) (wants : builder.Wants stack) :
      builder.after ('{' :: (inner ++ ['}']) ++ rest) =
        (Builder.open (.object [] :: stack) .firstKey).after (inner ++ '}' :: rest) := by
    rw [List.cons_append, List.append_assoc, after_cons_of_mark .openObject rfl,
      wants _ (by simp)]
    rfl
  by_cases isEmpty : entries = []
  · subst isEmpty
    cases joined with
    | empty spaced =>
        refine ⟨.object [] .closed, rfl, fun builder stack wants => ?_⟩
        rw [opens builder stack wants, after_append_of_spaced spaced,
          after_cons_of_mark .closeObject rfl]
        rfl
  · obtain ⟨taken, arePlain, builds⟩ := after_members keys members each joined isEmpty rest
    refine ⟨.object taken .closed, ?_, fun builder stack wants => ?_⟩
    · rw [Draft.plain, arePlain]
    · rw [opens builder stack wants, builds _ [] stack fun _ => rfl]
      rfl

end Builder

/-! ## Documents -/

/-- Every spelled text is taken for its tree. -/
theorem Spells.isTaken {depth : Nat} {tree : Draft} {text : List Char}
    (spelled : Spells depth tree text) : IsTaken tree text := by
  induction spelled with
  | word word => exact Builder.isTaken_word word
  | number spelled => exact Builder.isTaken_number spelled
  | string isBody => exact Builder.isTaken_string isBody
  | list each joined inductionHypothesis => exact Builder.isTaken_list inductionHypothesis joined
  | object keys members each joined inductionHypothesis =>
      exact Builder.isTaken_object keys members inductionHypothesis joined

/-- The document of a spelled text with blanks around it is its tree, and
nothing follows it. -/
theorem Spells.ofText
    {depth : Nat}
    {tree : Draft}
    {text before behind : List Char}
    (spelled : Spells depth tree text)
    (spacedBefore : IsSpaced before)
    (spacedBehind : IsSpaced behind) :
    ∃ draft : Draft, draft.plain = tree ∧
      Draft.ofText (before ++ (text ++ behind)) = (draft, false) := by
  have delimits : Delimits behind := by
    have ended : Delimits [] := fun c isHead => by cases isHead
    rw [← List.append_nil behind]
    exact ended.append spacedBehind
  obtain ⟨draft, isPlain, builds⟩ := spelled.isTaken behind delimits
  refine ⟨draft, isPlain, ?_⟩
  have built : (Builder.open [] .value).after (before ++ (text ++ behind)) =
      .done draft false := by
    rw [Builder.after_append_of_spaced spacedBefore, builds _ [] (Builder.wants_value []),
      ← List.append_nil behind, Builder.after_append_of_spaced spacedBehind]
    rfl
  show ((Builder.open [] .value).after (before ++ (text ++ behind))).finish = _
  rw [built]
  rfl

end InterfaceAudit.Json
