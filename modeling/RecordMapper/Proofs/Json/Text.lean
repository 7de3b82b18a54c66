import RecordMapper.Json.Printer
import RecordMapper.Json.Reader

/-! # The text of a value is read as it was written

The compact text of a value is cut into the tokens of the value, and these are put together to its
document. `Document.parse?_compact` says so for all values whose numbers are legible: of a double it is
assumed that its shortest decimal is read as that double; integers, texts and the marks between the parts
are proved to be read as they were written.
-/

namespace RecordMapper

namespace Json

mutual

/-- The tokens of the text of a value. -/
def tokens : Json → List Token
  | .null => [.null]
  | .bool value => [.bool value]
  | .number value => [.number (some value)]
  | .text content => [.text (some content)]
  | .list items => .openList :: (itemTokens items ++ [.closeList])
  | .record fields => .openRecord :: (fieldTokens fields ++ [.closeRecord])

/-- The tokens of the items of a list, with commas between them. -/
def itemTokens : List Json → List Token
  | [] => []
  | [item] => tokens item
  | item :: rest => tokens item ++ .comma :: itemTokens rest

/-- The tokens of the fields of a record, with commas between them. -/
def fieldTokens : List (String × Json) → List Token
  | [] => []
  | [(name, value)] => .text (some name) :: .colon :: tokens value
  | (name, value) :: rest => .text (some name) :: .colon :: (tokens value ++ .comma :: fieldTokens rest)

end

mutual

/-- What every number in a value is. -/
def EachNumber (accepts : Number → Prop) : Json → Prop
  | .number value => accepts value
  | .list items => EachNumberOfItems accepts items
  | .record fields => EachNumberOfFields accepts fields
  | _ => True

/-- What every number in the items of a list is. -/
def EachNumberOfItems (accepts : Number → Prop) : List Json → Prop
  | [] => True
  | item :: rest => EachNumber accepts item ∧ EachNumberOfItems accepts rest

/-- What every number in the fields of a record is. -/
def EachNumberOfFields (accepts : Number → Prop) : List (String × Json) → Prop
  | [] => True
  | (_, value) :: rest => EachNumber accepts value ∧ EachNumberOfFields accepts rest

end

theorem eachNumberOfItems_iff {accepts : Number → Prop} {items : List Json} :
    EachNumberOfItems accepts items ↔ ∀ item ∈ items, EachNumber accepts item := by
  induction items with
  | nil => simp [EachNumberOfItems]
  | cons item rest ih => rw [EachNumberOfItems, ih, List.forall_mem_cons]

theorem eachNumberOfFields_iff {accepts : Number → Prop} {fields : List (String × Json)} :
    EachNumberOfFields accepts fields ↔ ∀ entry ∈ fields, EachNumber accepts entry.2 := by
  induction fields with
  | nil => simp [EachNumberOfFields]
  | cons entry rest ih => rw [EachNumberOfFields, ih, List.forall_mem_cons]

theorem tokens_eq_cons (value : Json) :
    ∃ first rest, value.tokens = first :: rest ∧ first ≠ .closeList := by
  cases value <;> exact ⟨_, _, rfl, nofun⟩

theorem itemTokens_eq_cons (item : Json) (items : List Json) :
    ∃ first rest, itemTokens (item :: items) = first :: rest ∧ first ≠ .closeList := by
  obtain ⟨first, rest, same, notClosed⟩ := tokens_eq_cons item
  cases items with
  | nil => exact ⟨first, rest, same, notClosed⟩
  | cons next others =>
    refine ⟨first, rest ++ .comma :: itemTokens (next :: others), ?_, notClosed⟩
    simp [itemTokens, same]

theorem fieldTokens_eq_cons (name : String) (value : Json) (fields : List (String × Json)) :
    ∃ rest, fieldTokens ((name, value) :: fields) = .text (some name) :: rest := by
  cases fields <;> exact ⟨_, rfl⟩

end Json

/-! ## From tokens to documents -/

namespace Document

open Json

theorem value?_openList {first : Token} (notClosed : first ≠ .closeList) (fuel : Nat) (rest : List Token) :
    value? (fuel + 1) (.openList :: first :: rest) =
      (items? fuel (first :: rest)).map fun (items, rest) => (.list items, rest) := by
  cases first <;> first | rfl | exact absurd rfl notClosed

theorem items?_last {fuel : Nat} {tokens rest : List Token} {item : Document}
    (here : value? fuel tokens = some (item, .closeList :: rest)) :
    items? (fuel + 1) tokens = some ([item], rest) := by
  rw [items?, here]
  rfl

theorem items?_more {fuel : Nat} {tokens rest after : List Token} {item : Document} {items : List Document}
    (here : value? fuel tokens = some (item, .comma :: rest)) (later : items? fuel rest = some (items, after)) :
    items? (fuel + 1) tokens = some (item :: items, after) := by
  rw [items?, here]
  change (items? fuel rest).bind _ = _
  rw [later]
  rfl

theorem pairs?_last {fuel : Nat} {tokens rest : List Token} {name : Option String} {member : Document}
    (here : value? fuel tokens = some (member, .closeRecord :: rest)) :
    pairs? (fuel + 1) (.text name :: .colon :: tokens) = some ([(name, member)], rest) := by
  rw [pairs?, here]
  rfl

theorem pairs?_more {fuel : Nat} {tokens rest after : List Token} {name : Option String} {member : Document}
    {members : List (Option String × Document)} (here : value? fuel tokens = some (member, .comma :: rest))
    (later : pairs? fuel rest = some (members, after)) :
    pairs? (fuel + 1) (.text name :: .colon :: tokens) = some ((name, member) :: members, after) := by
  rw [pairs?, here]
  change (pairs? fuel rest).bind _ = _
  rw [later]
  rfl

mutual

/-- The tokens of a value are put together to its document. -/
theorem value?_tokens (value : Json) (rest : List Token) (fuel : Nat) (enough : 2 * value.tokens.length ≤ fuel) :
    value? fuel (value.tokens ++ rest) = some (ofJson value, rest) := by
  match fuel, value with
  | 0, value =>
    -- there is a token, so there is fuel for it
    obtain ⟨first, others, same, -⟩ := tokens_eq_cons value
    rw [same, List.length_cons] at enough
    omega
  | fuel + 1, .null => rfl
  | fuel + 1, .bool _ => rfl
  | fuel + 1, .number _ => rfl
  | fuel + 1, .text _ => rfl
  | fuel + 1, .list [] => rfl
  | fuel + 1, .list (item :: items) =>
    simp only [tokens, List.length_cons, List.length_append] at enough
    have read := items?_tokens item items rest fuel (by omega)
    obtain ⟨first, others, same, notClosed⟩ := itemTokens_eq_cons item items
    rw [same, List.cons_append] at read
    rw [tokens, List.cons_append, List.append_assoc, List.singleton_append, same, List.cons_append,
      value?_openList notClosed, read]
    rfl
  | fuel + 1, .record [] => rfl
  | fuel + 1, .record ((name, value) :: fields) =>
    simp only [tokens, List.length_cons, List.length_append] at enough
    have read := pairs?_tokens name value fields rest fuel (by omega)
    obtain ⟨others, same⟩ := fieldTokens_eq_cons name value fields
    rw [same, List.cons_append] at read
    rw [tokens, List.cons_append, List.append_assoc, List.singleton_append, same, List.cons_append]
    change (pairs? fuel _).map _ = _
    rw [read]
    rfl

theorem items?_tokens (item : Json) (items : List Json) (rest : List Token) (fuel : Nat)
    (enough : 2 * (itemTokens (item :: items)).length + 1 ≤ fuel) :
    items? fuel (itemTokens (item :: items) ++ .closeList :: rest) = some (ofItems (item :: items), rest) := by
  match fuel, items with
  | fuel + 1, [] =>
    rw [itemTokens] at enough ⊢
    exact items?_last (value?_tokens item (.closeList :: rest) fuel (by omega))
  | fuel + 1, next :: others =>
    simp only [itemTokens, List.length_append, List.length_cons, List.append_assoc, List.cons_append] at enough ⊢
    exact items?_more (value?_tokens item _ fuel (by omega)) (items?_tokens next others rest fuel (by omega))

theorem pairs?_tokens (name : String) (value : Json) (fields : List (String × Json)) (rest : List Token)
    (fuel : Nat) (enough : 2 * (fieldTokens ((name, value) :: fields)).length + 1 ≤ fuel) :
    pairs? fuel (fieldTokens ((name, value) :: fields) ++ .closeRecord :: rest) =
      some (ofFields ((name, value) :: fields), rest) := by
  match fuel, fields with
  | fuel + 1, [] =>
    simp only [fieldTokens, List.length_cons] at enough
    exact pairs?_last (value?_tokens value (.closeRecord :: rest) fuel (by omega))
  | fuel + 1, (next, other) :: others =>
    simp only [fieldTokens, List.length_append, List.length_cons, List.append_assoc, List.cons_append] at enough ⊢
    exact pairs?_more (value?_tokens value _ fuel (by omega)) (pairs?_tokens next other others rest fuel (by omega))

end

end Document

/-! ## From text to tokens -/

namespace Token

/-- A text is cut into tokens. -/
def Scanned (chars : List Char) (tokens : List Token) : Prop :=
  ∀ fuel, chars.length < fuel → scanFrom? fuel chars = some tokens

theorem scanned_nil : Scanned [] [] := by
  intro fuel enough
  cases fuel with
  | zero => cases enough
  | succ fuel => rfl

/-- No token starts with a blank. -/
theorem next?_of_blank {char : Char} (blank : isBlank char = true) (rest : List Char) :
    next? (char :: rest) = none := by
  simp only [isBlank, Bool.or_eq_true, decide_eq_true_eq] at blank
  rcases blank with ((rfl | rfl) | rfl) | rfl <;> rfl

theorem Scanned.cons {chars rest : List Char} {token : Token} {tokens : List Token}
    (here : next? chars = some (token, rest)) (shorter : rest.length < chars.length) (later : Scanned rest tokens) :
    Scanned chars (token :: tokens) := by
  intro fuel enough
  cases fuel with
  | zero => cases enough
  | succ fuel =>
    cases chars with
    | nil => cases shorter
    | cons char others =>
      -- no blank stands in front of the token, so none is skipped
      have notBlank : isBlank char ≠ true := by
        intro blank
        rw [next?_of_blank blank] at here
        cases here
      rw [scanFrom?, List.dropWhile_cons_of_neg notBlank]
      dsimp only
      rw [here]
      change (scanFrom? fuel rest).bind _ = _
      rw [later fuel (by omega)]
      rfl

theorem unit?_of_control {code : Nat} (control : code < 0x20) (rest : List Char) :
    unit? ('0' :: '0' :: Json.hexDigit (code / 16) :: Json.hexDigit (code % 16) :: rest) = some (code, rest) := by
  have digits : ∀ code < 0x20, hexValue? (Json.hexDigit (code / 16)) = some (code / 16) ∧
      hexValue? (Json.hexDigit (code % 16)) = some (code % 16) := by decide
  obtain ⟨high, low⟩ := digits code control
  have zero : hexValue? '0' = some 0 := rfl
  simp only [unit?, zero, high, low, Option.bind_eq_bind, Option.bind_some, Option.pure_def, Option.some.injEq,
    Prod.mk.injEq, and_true]
  omega

/-- A character within quotes is read as it was written. -/
theorem textBody?_escape (char : Char) (rest : List Char) (fuel : Nat) :
    textBody? (fuel + 1) (Json.escape char ++ rest) =
      (textBody? fuel rest).map fun (tail, rest) => (tail.map (char :: ·), rest) := by
  have known {code : Nat} (same : char.toNat = code) : char = Char.ofNat code := by
    rw [← same, Char.ofNat_toNat]
  unfold Json.escape
  dsimp only
  -- the characters with an escape of their own
  iterate 7
    split
    · next same => rw [known same]; rfl
  next notQuote notBackslash _ _ _ _ _ =>
  split
  · next control =>
    have notHigh : ¬(0xd800 ≤ char.toNat ∧ char.toNat < 0xdc00) := by omega
    have notLow : ¬(0xdc00 ≤ char.toNat ∧ char.toNat < 0xe000) := by omega
    simp [textBody?, unit?_of_control control, notHigh, notLow]
  · next printable => simp [textBody?, notQuote, notBackslash, printable]

theorem textBody?_quoted (content rest : List Char) (fuel : Nat) (enough : content.length < fuel) :
    textBody? fuel (content.flatMap Json.escape ++ '"' :: rest) = some (some content, rest) := by
  induction content generalizing fuel with
  | nil =>
    cases fuel with
    | zero => cases enough
    | succ fuel => rfl
  | cons char content ih =>
    cases fuel with
    | zero => cases enough
    | succ fuel =>
      rw [List.flatMap_cons, List.append_assoc, textBody?_escape, ih fuel (by simpa using enough)]
      rfl

theorem length_le_flatMap_escape (content : List Char) : content.length ≤ (content.flatMap Json.escape).length := by
  induction content with
  | nil => exact Nat.le_refl 0
  | cons char content ih =>
    have one : 1 ≤ (Json.escape char).length := by
      unfold Json.escape
      grind
    rw [List.flatMap_cons, List.length_append, List.length_cons]
    omega

theorem toList_quote (content : String) :
    (Json.quote content).toList = '"' :: (content.toList.flatMap Json.escape ++ ['"']) := by
  simp [Json.quote, String.toList_append]

theorem next?_quotationMark (rest : List Char) :
    next? ('"' :: rest) =
      (textBody? (rest.length + 1) rest).map fun (content, rest) => (.text (content.map String.ofList), rest) :=
  rfl

theorem next?_quote (content : String) (rest : List Char) :
    next? ((Json.quote content).toList ++ rest) = some (.text (some content), rest) := by
  have long := length_le_flatMap_escape content.toList
  rw [toList_quote, List.cons_append, List.append_assoc, List.singleton_append, next?_quotationMark,
    textBody?_quoted _ _ _ (by simp only [List.length_append]; omega)]
  simp

/-- What may stand after a value. -/
def Follows (rest : List Char) : Prop :=
  ∀ char ∈ rest.head?, char = ',' ∨ char = ']' ∨ char = '\x7d'

theorem Follows.mark {char : Char} (isMark : char = ',' ∨ char = ']' ∨ char = '\x7d') {rest : List Char} :
    Follows (char :: rest) := by
  intro first same
  obtain rfl := Option.some.inj same
  exact isMark

/-! ### Numbers -/

theorem Follows.cases {rest : List Char} (follows : Follows rest) :
    rest = [] ∨ ∃ char others, rest = char :: others ∧ (char = ',' ∨ char = ']' ∨ char = '\x7d') := by
  cases rest with
  | nil => exact .inl rfl
  | cons char others => exact .inr ⟨char, others, rfl, follows char rfl⟩

/-- The digits of a number end where it does. -/
theorem Follows.digits {rest : List Char} (follows : Follows rest) {digits : List Char}
    (areDigits : ∀ char ∈ digits, char.isDigit = true) :
    (digits ++ rest).takeWhile Char.isDigit = digits ∧ (digits ++ rest).dropWhile Char.isDigit = rest := by
  rw [List.takeWhile_append_of_pos areDigits, List.dropWhile_append_of_pos areDigits]
  rcases follows.cases with rfl | ⟨char, others, rfl, rfl | rfl | rfl⟩ <;> simp [Char.isDigit]

/-- Neither a fraction nor an exponent stands where a number ends. -/
theorem Follows.plain {rest : List Char} (follows : Follows rest) :
    fraction? rest = some (none, rest) ∧ exponent? rest = some (none, rest) := by
  rcases follows.cases with rfl | ⟨char, others, rfl, rfl | rfl | rfl⟩ <;> exact ⟨rfl, rfl⟩

theorem digitsValue_toDigits (value : Nat) : digitsValue (Nat.toDigits 10 value) = value := by
  have value_eq := @Nat.ofDigitChars_toDigits 10 value (by decide) (by decide)
  rwa [Nat.ofDigitChars_eq_foldl] at value_eq

/-- No number above zero starts with a zero. -/
theorem head?_toDigits_ne_zero {value : Nat} (positive : 0 < value) : (Nat.toDigits 10 value).head? ≠ some '0' := by
  induction value using Nat.strongRecOn with
  | ind value ih =>
    by_cases small : value < 10
    · rw [Nat.toDigits_of_lt_base small]
      have digits : ∀ value < 10, 0 < value → [Nat.digitChar value].head? ≠ some '0' := by decide
      exact digits value small positive
    · have shorter := ih (value / 10) (by omega) (by omega)
      rw [Nat.toDigits_of_base_le (by decide) (by omega), List.head?_append]
      obtain ⟨first, others, same⟩ := List.exists_cons_of_ne_nil (@Nat.toDigits_ne_nil (value / 10) 10)
      rw [same] at shorter ⊢
      exact shorter

theorem numberBody?_toDigits {negative : Bool} {value : Nat} {number : Number}
    (isNumber : Number.ofInteger? negative value = some number) {rest : List Char} (follows : Follows rest) :
    numberBody? negative (Nat.toDigits 10 value ++ rest) = some (some number, rest) := by
  obtain ⟨taken, left⟩ := follows.digits fun char member =>
    Nat.isDigit_of_mem_toDigits (Nat.zero_lt_succ 9) (Nat.le_refl 10) member
  obtain ⟨noFraction, noExponent⟩ := follows.plain
  unfold numberBody?
  rw [taken, left, noFraction]
  have noLeadingZero : ((Nat.toDigits 10 value).isEmpty ||
      (Nat.toDigits 10 value).head? == some '0' && decide (1 < (Nat.toDigits 10 value).length)) = false := by
    by_cases positive : 0 < value
    · simp [Nat.toDigits_ne_nil, head?_toDigits_ne_zero positive]
    · obtain rfl : value = 0 := by omega
      rfl
  simp [noExponent, digitsValue_toDigits, isNumber, noLeadingZero]

end Token

/-- A number is read from its own text, whatever stands after it. -/
def Number.ReadsBack (number : Number) : Prop :=
  ∀ rest, Token.Follows rest → Token.next? (number.text.toList ++ rest) = some (.number (some number), rest)

namespace Number

open Token

theorem next?_digit {char : Char} (digit : char.isDigit = true) (rest : List Char) :
    next? (char :: rest) = (numberBody? false (char :: rest)).map fun (value, rest) => (.number value, rest) := by
  have bounds : 48 ≤ char.toNat ∧ char.toNat ≤ 57 := by
    simpa [Char.isDigit, UInt32.le_iff_toNat_le] using digit
  unfold next?
  dsimp only
  split
  case h_9 => rw [if_pos digit]
  all_goals omega

/-- An integer in range is read from its own text. -/
theorem readsBack_integer {value : Int} (least : -(Nat.pow 2 63 : Int) ≤ value) (most : value < Nat.pow 2 64) :
    (Number.integer value).ReadsBack := by
  intro rest follows
  cases value with
  | ofNat value =>
    have text : (Number.integer (.ofNat value)).text.toList = Nat.toDigits 10 value := Nat.toList_repr
    have inRange : value < Nat.pow 2 64 := Int.ofNat_lt.mp most
    have isNumber : ofInteger? false value = some (.integer value) := by
      rw [ofInteger?, if_neg Bool.false_ne_true, if_pos inRange]
    obtain ⟨first, others, digits⟩ := List.exists_cons_of_ne_nil (@Nat.toDigits_ne_nil value 10)
    have digit : first.isDigit = true :=
      Nat.isDigit_of_mem_toDigits (Nat.zero_lt_succ 9) (Nat.le_refl 10) (digits ▸ List.mem_cons_self ..)
    rw [text, digits, List.cons_append, next?_digit digit, ← List.cons_append, ← digits,
      numberBody?_toDigits isNumber follows]
    rfl
  | negSucc value =>
    have text : (Number.integer (.negSucc value)).text.toList = '-' :: Nat.toDigits 10 (value + 1) := by
      change ("-" ++ (value + 1).repr).toList = _
      rw [String.toList_append, Nat.toList_repr]
      rfl
    have inRange : value + 1 ≠ 0 ∧ value + 1 ≤ Nat.pow 2 63 := by omega
    have isNumber : ofInteger? true (value + 1) = some (.integer (.negSucc value)) := by
      rw [ofInteger?, if_pos rfl, if_pos inRange]
      rfl
    rw [text, List.cons_append]
    change (numberBody? true (Nat.toDigits 10 (value + 1) ++ rest)).map _ = _
    rw [numberBody?_toDigits isNumber follows]
    rfl

/-- A number that can be exchanged as text: an integer in the range of those that are read, or a double
that is read from its own text. -/
def Legible : Number → Prop
  | .integer value => -(Nat.pow 2 63 : Int) ≤ value ∧ value < Nat.pow 2 64
  | .double value => (Number.double value).ReadsBack

theorem Legible.readsBack {number : Number} (legible : number.Legible) : number.ReadsBack := by
  cases number with
  | integer value => exact readsBack_integer legible.1 legible.2
  | double value => exact legible

end Number

namespace Token

open Json

variable {rest : List Char} {result : List Token}

theorem scanned_number {number : Number} (legible : number.Legible) (follows : Follows rest)
    (later : Scanned rest result) :
    Scanned (number.text.toList ++ rest) (.number (some number) :: result) := by
  have reads := legible.readsBack
  refine .cons (reads rest follows) ?_ later
  -- nothing can be read of an empty text
  have notEmpty : number.text.toList ≠ [] := by
    intro empty
    have none := reads [] (by simp [Follows])
    rw [empty] at none
    cases none
  have long := List.length_pos_iff.mpr notEmpty
  rw [List.length_append]
  omega

theorem scanned_quote (content : String) (later : Scanned rest result) :
    Scanned ((quote content).toList ++ rest) (.text (some content) :: result) := by
  refine .cons (next?_quote content rest) ?_ later
  simp only [toList_quote, List.length_append, List.length_cons]
  omega

/-- A mark that is a token by itself. -/
theorem scanned_mark {mark : Char} {token : Token} (isToken : ∀ rest, next? (mark :: rest) = some (token, rest))
    (later : Scanned rest result) : Scanned (mark :: rest) (token :: result) :=
  .cons (isToken rest) (Nat.lt_succ_self _) later

mutual

/-- The text of a value is cut into its tokens. -/
theorem scanned_compact (value : Json) (numbers : value.EachNumber Number.Legible) {rest : List Char}
    {result : List Token} (follows : Follows rest) (later : Scanned rest result) :
    Scanned (value.compact.toList ++ rest) (value.tokens ++ result) := by
  match value with
  | .null => exact .cons rfl (by simp +arith [compact]) later
  | .bool true => exact .cons rfl (by simp +arith [compact]) later
  | .bool false => exact .cons rfl (by simp +arith [compact]) later
  | .number _ => exact scanned_number numbers follows later
  | .text _ => exact scanned_quote _ later
  | .list items =>
    have close : Scanned (']' :: rest) (.closeList :: result) := scanned_mark (fun _ => rfl) later
    have read := scanned_items items numbers (.mark (.inr (.inl rfl))) close
    have text : (compact (.list items)).toList ++ rest =
        '[' :: ((",".intercalate (compactItems items)).toList ++ ']' :: rest) := by
      simp [compact, String.toList_append]
    rw [text, tokens, List.cons_append, List.append_assoc]
    exact scanned_mark (fun _ => rfl) read
  | .record fields =>
    have close : Scanned ('\x7d' :: rest) (.closeRecord :: result) := scanned_mark (fun _ => rfl) later
    have read := scanned_fields fields numbers (.mark (.inr (.inr rfl))) close
    have text : (compact (.record fields)).toList ++ rest =
        '\x7b' :: ((",".intercalate (compactFields fields)).toList ++ '\x7d' :: rest) := by
      simp [compact, String.toList_append]
    rw [text, tokens, List.cons_append, List.append_assoc]
    exact scanned_mark (fun _ => rfl) read

theorem scanned_items (items : List Json) (numbers : EachNumberOfItems Number.Legible items) {rest : List Char}
    {result : List Token} (follows : Follows rest) (later : Scanned rest result) :
    Scanned ((",".intercalate (compactItems items)).toList ++ rest) (itemTokens items ++ result) := by
  match items with
  | [] => simpa [compactItems, itemTokens] using later
  | [item] => simpa [compactItems, itemTokens] using scanned_compact item numbers.1 follows later
  | item :: next :: others =>
    have read := scanned_items (next :: others) numbers.2 follows later
    have comma : Scanned (',' :: _) (.comma :: _) := scanned_mark (fun _ => rfl) read
    have whole := scanned_compact item numbers.1 (.mark (.inl rfl)) comma
    simpa [compactItems, itemTokens, String.intercalate_cons_cons, String.toList_append] using whole

theorem scanned_fields (fields : List (String × Json)) (numbers : EachNumberOfFields Number.Legible fields)
    {rest : List Char} {result : List Token} (follows : Follows rest) (later : Scanned rest result) :
    Scanned ((",".intercalate (compactFields fields)).toList ++ rest) (fieldTokens fields ++ result) := by
  match fields with
  | [] => simpa [compactFields, fieldTokens] using later
  | [(name, value)] =>
    have read := scanned_compact value numbers.1 follows later
    have colon : Scanned (':' :: _) (.colon :: _) := scanned_mark (fun _ => rfl) read
    have named := scanned_quote name colon
    simpa [compactFields, fieldTokens, String.toList_append] using named
  | (name, value) :: (next, other) :: others =>
    have read := scanned_fields ((next, other) :: others) numbers.2 follows later
    have comma : Scanned (',' :: _) (.comma :: _) := scanned_mark (fun _ => rfl) read
    have whole := scanned_compact value numbers.1 (.mark (.inl rfl)) comma
    have colon : Scanned (':' :: _) (.colon :: _) := scanned_mark (fun _ => rfl) whole
    have named := scanned_quote name colon
    simpa [compactFields, fieldTokens, String.intercalate_cons_cons, String.toList_append] using named

end

end Token

/-- The text of a value is read as it was written, if the texts of its numbers are. -/
theorem Document.parse?_compact {value : Json} (numbers : value.EachNumber Number.Legible) :
    parse? value.compact = some (ofJson value) := by
  have ends : Token.Follows [] := by simp [Token.Follows]
  have scanned := Token.scanned_compact value numbers ends Token.scanned_nil
  rw [List.append_nil, List.append_nil] at scanned
  have built := value?_tokens value [] (2 * value.tokens.length + 1) (by omega)
  rw [List.append_nil] at built
  rw [parse?, Token.scan?, scanned _ (Nat.lt_succ_self _)]
  change (value? (2 * value.tokens.length + 1) value.tokens).bind _ = _
  rw [built]
  rfl

end RecordMapper
