import CallCenter.JsonValues
import CallCenter.ObjectFields
import Mathlib.Data.List.TakeWhile

/-!
# Printed JSON determines its value

Printing is injective on JSON values, and the sorted text is injective up to the
order of object fields. Every printed value is self-delimiting when the text after
it does not continue a number: the next closing bracket, comma or end of text
fixes where it stops.
-/

namespace CallCenter.JsonText

open JsonValues

/-- Value of a lower-case hexadecimal digit. -/
def hexValue (c : Char) : Nat := if c.toNat < 58 then c.toNat - 48 else c.toNat - 87

/-- Read one possibly escaped character. -/
def unescapeChar : List Char → Option (Char × List Char)
  | [] => none
  | c :: rest =>
    if c ≠ backslash then some (c, rest)
    else
      match rest with
      | 'b' :: rest => some (Char.ofNat 8, rest)
      | 't' :: rest => some (Char.ofNat 9, rest)
      | 'n' :: rest => some (Char.ofNat 10, rest)
      | 'f' :: rest => some (Char.ofNat 12, rest)
      | 'r' :: rest => some (Char.ofNat 13, rest)
      | 'u' :: _ :: _ :: high :: low :: rest =>
        some (Char.ofNat (16 * hexValue high + hexValue low), rest)
      | other :: rest => some (other, rest)
      | [] => none

theorem hexValue_hexDigit : ∀ n < 16, hexValue (hexDigit n) = n := by decide

variable {c : Char}

theorem ofNat_of_toNat_eq {n : Nat} (same : c.toNat = n) : Char.ofNat n = c := by
  rw [← same, Char.ofNat_toNat]

/-- Reading undoes escaping and leaves the following text alone. -/
theorem unescapeChar_escapeChar (c : Char) (rest : List Char) :
    unescapeChar (escapeChar c ++ rest) = some (c, rest) := by
  unfold escapeChar
  split_ifs with special backspace tab newline feed carriage control
  · rcases special with isQuote | isBackslash
    · obtain rfl : c = Char.ofNat 34 := (ofNat_of_toNat_eq isQuote).symm
      rfl
    · obtain rfl : c = Char.ofNat 92 := (ofNat_of_toNat_eq isBackslash).symm
      rfl
  · rw [← ofNat_of_toNat_eq backspace]
    rfl
  · rw [← ofNat_of_toNat_eq tab]
    rfl
  · rw [← ofNat_of_toNat_eq newline]
    rfl
  · rw [← ofNat_of_toNat_eq feed]
    rfl
  · rw [← ofNat_of_toNat_eq carriage]
    rfl
  · have high : hexValue (hexDigit (c.toNat / 16)) = c.toNat / 16 :=
      hexValue_hexDigit _ (by omega)
    have low : hexValue (hexDigit (c.toNat % 16)) = c.toNat % 16 :=
      hexValue_hexDigit _ (by omega)
    have code : 16 * (c.toNat / 16) + c.toNat % 16 = c.toNat := by omega
    simp [unescapeChar, high, low, code]
  · have plain : c ≠ backslash := by
      rintro rfl
      exact special (Or.inr rfl)
    simp [unescapeChar, plain]

/-- An escaped character never begins with a quote. -/
theorem escapeChar_ne_quote (c : Char) (rest tail : List Char) :
    escapeChar c ++ rest ≠ quote :: tail := by
  by_cases special : c.toNat = 34 ∨ c.toNat = 92
  · rw [escapeChar, if_pos special]
    exact fun same => absurd (List.cons.inj same).1 (by decide)
  · have bare : c ≠ quote := by
      rintro rfl
      exact special (Or.inl rfl)
    rw [escapeChar, if_neg special]
    split_ifs
    case neg => exact fun same => bare (List.cons.inj same).1
    all_goals exact fun same => absurd (List.cons.inj same).1 (by decide)

/-- Escaped texts end at their first bare quote. -/
theorem escaped_delimited (left right leftRest rightRest : List Char)
    (same : left.flatMap escapeChar ++ quote :: leftRest =
      right.flatMap escapeChar ++ quote :: rightRest) :
    left = right ∧ leftRest = rightRest := by
  induction left generalizing right with
  | nil =>
    cases right with
    | nil => simpa using same
    | cons d => exact absurd (by simpa using same.symm) (escapeChar_ne_quote d _ _)
  | cons c characters ih =>
    cases right with
    | nil => exact absurd (by simpa using same) (escapeChar_ne_quote c _ _)
    | cons d others =>
      have read := congrArg unescapeChar same
      simp only [List.flatMap_cons, List.append_assoc, unescapeChar_escapeChar, Option.some.injEq,
        Prod.mk.injEq] at read
      obtain ⟨equalTails, equalRests⟩ := ih others read.2
      exact ⟨by rw [read.1, equalTails], equalRests⟩

/-- Printed strings are self-delimiting. -/
theorem jsonString_delimited (left right : String) (leftRest rightRest : List Char)
    (same : (jsonString left).toList ++ leftRest = (jsonString right).toList ++ rightRest) :
    left = right ∧ leftRest = rightRest := by
  simp only [jsonString, String.toList_ofList, List.cons_append, List.append_assoc,
    List.nil_append, List.cons.injEq, true_and] at same
  obtain ⟨equal, rests⟩ := escaped_delimited _ _ _ _ same
  exact ⟨String.toList_inj.mp equal, rests⟩

/-- The text does not continue a number. -/
def StopsNumber (rest : List Char) : Prop := ∀ c, rest.head? = some c → isNumberChar c = false

/-- A number ends where the text stops being numeric. -/
theorem number_delimited (left right : JsonNumber) (leftRest rightRest : List Char)
    (leftStops : StopsNumber leftRest) (rightStops : StopsNumber rightRest)
    (same : left.text.toList ++ leftRest = right.text.toList ++ rightRest) :
    left = right ∧ leftRest = rightRest := by
  have taken (number : JsonNumber) (rest : List Char) (stops : StopsNumber rest) :
      (number.text.toList ++ rest).takeWhile isNumberChar = number.text.toList := by
    rw [List.takeWhile_append_of_pos number.numeric.2]
    cases rest with
    | nil => simp
    | cons c => simp [stops c rfl]
  have texts : left.text.toList = right.text.toList := by
    rw [← taken left leftRest leftStops, same, taken right rightRest rightStops]
  refine ⟨?_, ?_⟩
  · cases left
    cases right
    simpa [String.toList_inj] using texts
  · simpa [texts] using same

/-- The characters of a joined list: the first text, then each later one after a comma. -/
theorem commaJoin_cons (first : String) (rest : List String) : (commaJoin (first :: rest)).toList =
      first.toList ++ rest.flatMap fun text => ',' :: text.toList := by
  induction rest generalizing first with
  | nil => simp [commaJoin]
  | cons second others ih =>
    simp [commaJoin, ih second]

/-- Shapes of JSON values that their first character tells apart. -/
def kind : Value → Nat
  | .null => 0
  | .bool true => 1
  | .bool false => 2
  | .string _ => 3
  | .array _ => 4
  | .object _ => 5
  | .number _ => 6
  | .undefined => 7

/-- The shape that a first character announces; separators announce none. -/
def charKind (c : Char) : Nat :=
  if c = 'n' then 0
  else if c = 't' then 1
  else if c = 'f' then 2
  else if c = quote then 3
  else if c = '[' then 4
  else if c = Char.ofNat 123 then 5
  else if isNumberChar c then 6
  else 7

theorem charKind_of_isNumberChar (numeric : isNumberChar c) : charKind c = 6 := by
  have differs (other : Char) (isOther : isNumberChar other = false) : c ≠ other := by
    rintro rfl
    rw [numeric] at isOther
    cases isOther
  simp [charKind, numeric, differs 'n' (by decide), differs 't' (by decide),
    differs 'f' (by decide), differs quote (by decide), differs '[' (by decide),
    differs (Char.ofNat 123) (by decide)]

/-- A printed JSON value begins with a character of its kind. -/
theorem print_head (value : Value) (json : value.isJson) :
    ∃ first others, value.print.toList = first :: others ∧ charKind first = kind value := by
  cases value with
  | undefined => simp [Value.isJson] at json
  | null => exact ⟨'n', _, rfl, rfl⟩
  | bool value => cases value with
    | true => exact ⟨'t', _, rfl, rfl⟩
    | false => exact ⟨'f', _, rfl, rfl⟩
  | number value =>
    cases value with
    | finite number =>
      obtain ⟨nonempty, numeric⟩ := number.numeric
      obtain ⟨first, others, split⟩ := List.exists_cons_of_ne_nil nonempty
      refine ⟨first, others, by simpa [Value.print] using split, ?_⟩
      exact charKind_of_isNumberChar (numeric first (by rw [split]; exact List.mem_cons_self))
    | nan | infinity | negativeInfinity => simp [Value.isJson] at json
  | string => exact ⟨quote, _, by simp [Value.print, jsonString]; rfl, rfl⟩
  | array => exact ⟨'[', _, by simp [Value.print]; rfl, rfl⟩
  | object => exact ⟨Char.ofNat 123, _, by simp [Value.print]; rfl, rfl⟩

variable {leftRest rightRest : List Char}

/-- Values whose printed texts begin alike are of one kind. -/
theorem kind_eq {left right : Value} (leftJson : left.isJson) (rightJson : right.isJson)
    (same : left.print.toList ++ leftRest = right.print.toList ++ rightRest) :
    kind left = kind right := by
  obtain ⟨first, others, leftText, leftKind⟩ := print_head left leftJson
  obtain ⟨second, more, rightText, rightKind⟩ := print_head right rightJson
  rw [leftText, rightText, List.cons_append, List.cons_append, List.cons.injEq] at same
  rw [← leftKind, ← rightKind, same.1]

/-- Printed items, each after a comma. -/
def itemTail (items : List Value) : List Char :=
  (printItems items).flatMap fun text => ',' :: text.toList

/-- Printed fields, each after a comma. -/
def fieldTail (fields : List (String × Value)) : List Char :=
  (printFields fields).flatMap fun text => ',' :: text.toList

theorem stopsNumber_cons (rest : List Char) (stops : isNumberChar c = false) :
    StopsNumber (c :: rest) := by
  intro first head
  cases head
  exact stops

theorem stopsNumber_tail {close : Char} (stops : isNumberChar close = false) (texts : List String)
    (rest : List Char) :
    StopsNumber ((texts.flatMap fun text => ',' :: text.toList) ++ close :: rest) := by
  cases texts with
  | nil => exact stopsNumber_cons _ stops
  | cons text others => exact stopsNumber_cons _ (by decide)

/-- The text begins with a character other than the closing bracket. -/
def Opens (close : Char) (text : String) : Prop :=
  ∃ first others, text.toList = first :: others ∧ first ≠ close

/-- Equal bracketed lists stay equal when every text, also the first, gets its comma. -/
theorem joined_tails {left right : List String} {close : Char}
    (leftOpens : ∀ text ∈ left, Opens close text) (rightOpens : ∀ text ∈ right, Opens close text)
    (same : (commaJoin left).toList ++ close :: leftRest =
      (commaJoin right).toList ++ close :: rightRest) :
    (left.flatMap fun text => ',' :: text.toList) ++ close :: leftRest =
      (right.flatMap fun text => ',' :: text.toList) ++ close :: rightRest := by
  have clash {text : String} {rest : List String} {tail others : List Char}
      (opens : Opens close text) : close :: tail ≠ (commaJoin (text :: rest)).toList ++ others := by
    obtain ⟨first, _, split, other⟩ := opens
    rw [commaJoin_cons, split]
    exact fun same => other (List.cons.inj same).1.symm
  cases left with
  | nil =>
    cases right with
    | nil => simpa [commaJoin] using same
    | cons text => exact absurd same (clash (rightOpens text List.mem_cons_self))
  | cons text =>
    cases right with
    | nil => exact absurd same.symm (clash (leftOpens text List.mem_cons_self))
    | cons =>
      rw [commaJoin_cons, commaJoin_cons] at same
      simp only [List.flatMap_cons, List.cons_append, same]

/-- No printed item begins with a closing bracket. -/
theorem printItems_open (items : List Value) (json : itemsAreJson items) :
    ∀ text ∈ printItems items, Opens ']' text := by
  rw [printItems_eq_map, List.forall_mem_map]
  intro item member
  have itemJson := (itemsAreJson_iff items).mp json item member
  obtain ⟨first, others, split, announced⟩ := print_head item itemJson
  refine ⟨first, others, split, ?_⟩
  rintro rfl
  rw [show charKind ']' = 7 by decide] at announced
  cases item with
  | undefined => cases itemJson
  | bool value => cases value <;> simp [kind] at announced
  | _ => simp [kind] at announced

/-- No printed field begins with a closing brace. -/
theorem printFields_open (fields : List (String × Value)) :
    ∀ text ∈ printFields fields, Opens (Char.ofNat 125) text := by
  rw [printFields_eq_map, List.forall_mem_map]
  intro field _
  exact ⟨quote, _, by simp [jsonString]; rfl, by decide⟩

/-- Lists of printed items are self-delimiting when their items are. -/
theorem list_delimited {α : Type} (render : α → String) {close : Char}
    (stops : isNumberChar close = false) (apart : close ≠ ',') {left right : List α}
    (each : ∀ item ∈ left, ∀ other ∈ right, ∀ rest otherRest, StopsNumber rest →
      StopsNumber otherRest → (render item).toList ++ rest = (render other).toList ++ otherRest →
      item = other ∧ rest = otherRest)
    (same : ((left.map render).flatMap fun text => ',' :: text.toList) ++ close :: leftRest =
      ((right.map render).flatMap fun text => ',' :: text.toList) ++ close :: rightRest) :
    left = right ∧ leftRest = rightRest := by
  induction left generalizing right with
  | nil =>
    cases right with
    | nil => simpa using same
    | cons => exact absurd (by simpa using (List.cons.inj same).1) apart
  | cons item others ih =>
    cases right with
    | nil => exact absurd (by simpa using (List.cons.inj same).1.symm) apart
    | cons second more =>
      simp only [List.map_cons, List.flatMap_cons, List.cons_append, List.append_assoc,
        List.cons.injEq, true_and] at same
      obtain ⟨rfl, rests⟩ := each item List.mem_cons_self second List.mem_cons_self _ _
        (stopsNumber_tail stops _ _) (stopsNumber_tail stops _ _) same
      obtain ⟨rfl, ends⟩ := ih (fun first member other known =>
        each first (List.mem_cons_of_mem _ member) other (List.mem_cons_of_mem _ known)) rests
      exact ⟨rfl, ends⟩

/-- A printed value determines the value and where its text ends. -/
theorem print_delimited (left right : Value) (leftRest rightRest : List Char)
    (leftJson : left.isJson) (rightJson : right.isJson) (leftStops : StopsNumber leftRest)
    (rightStops : StopsNumber rightRest)
    (same : left.print.toList ++ leftRest = right.print.toList ++ rightRest) :
    left = right ∧ leftRest = rightRest := by
  have kinds := kind_eq leftJson rightJson same
  induction left using Value.induct generalizing right leftRest rightRest with
  | undefined => simp [Value.isJson] at leftJson
  | null =>
    cases right with
    | null => exact ⟨rfl, by simpa using same⟩
    | bool value => cases value <;> simp [kind] at kinds
    | _ => simp [kind] at kinds
  | bool value =>
    cases right with
    | bool other =>
      obtain rfl : value = other := by cases value <;> cases other <;> simp [kind] at kinds ⊢
      exact ⟨rfl, by simpa using same⟩
    | _ => cases value <;> simp [kind] at kinds
  | number value =>
    cases right with
    | number other =>
      cases value with
      | finite number =>
        cases other with
        | finite second =>
          obtain ⟨rfl, rests⟩ := number_delimited number second leftRest rightRest leftStops
            rightStops (by simpa [Value.print] using same)
          exact ⟨rfl, rests⟩
        | _ => simp [Value.isJson] at rightJson
      | _ => simp [Value.isJson] at leftJson
    | bool value => cases value <;> simp [kind] at kinds
    | _ => simp [kind] at kinds
  | string value =>
    cases right with
    | string other =>
      obtain ⟨rfl, rests⟩ := jsonString_delimited value other leftRest rightRest
        (by simpa [Value.print] using same)
      exact ⟨rfl, rests⟩
    | bool value => cases value <;> simp [kind] at kinds
    | _ => simp [kind] at kinds
  | array items each =>
    cases right with
    | array others =>
      rw [Value.isJson] at leftJson rightJson
      have tails : itemTail items ++ ']' :: leftRest = itemTail others ++ ']' :: rightRest :=
        joined_tails (printItems_open items leftJson) (printItems_open others rightJson)
          (by simpa [Value.print] using same)
      rw [itemTail, itemTail, printItems_eq_map, printItems_eq_map] at tails
      rw [itemsAreJson_iff] at leftJson rightJson
      rw [Value.array.injEq]
      refine list_delimited Value.print (by decide) (by decide) ?_ tails
      intro item member other known rest otherRest stops otherStops texts
      exact each item member other rest otherRest (leftJson item member) (rightJson other known)
        stops otherStops texts (kind_eq (leftJson item member) (rightJson other known) texts)
    | bool value => cases value <;> simp [kind] at kinds
    | _ => simp [kind] at kinds
  | object fields each =>
    cases right with
    | object others =>
      rw [Value.isJson] at leftJson rightJson
      have tails : fieldTail fields ++ Char.ofNat 125 :: leftRest =
          fieldTail others ++ Char.ofNat 125 :: rightRest :=
        joined_tails (printFields_open fields) (printFields_open others)
          (by simpa [Value.print] using same)
      rw [fieldTail, fieldTail, printFields_eq_map, printFields_eq_map] at tails
      rw [fieldsAreJson_iff] at leftJson rightJson
      rw [Value.object.injEq]
      refine list_delimited _ (by decide) (by decide) ?_ tails
      rintro ⟨key, value⟩ member ⟨other, second⟩ known rest otherRest stops otherStops texts
      obtain ⟨rfl, afterKeys⟩ := jsonString_delimited key other (':' :: (value.print.toList ++ rest))
        (':' :: (second.print.toList ++ otherRest)) (by simpa using texts)
      have values := (List.cons.inj afterKeys).2
      obtain ⟨rfl, rests⟩ := each _ member second rest otherRest (leftJson _ member)
        (rightJson _ known) stops otherStops values
        (kind_eq (leftJson _ member) (rightJson _ known) values)
      exact ⟨rfl, rests⟩
    | bool value => cases value <;> simp [kind] at kinds
    | _ => simp [kind] at kinds

/-- Sorting fields neither adds nor removes values without a text. -/
theorem isJson_normal (value : Value) : value.normal.isJson = value.isJson := by
  induction value using Value.induct with
  | array items each =>
    rw [Value.normal, Value.isJson, Value.isJson, Bool.eq_iff_iff, itemsAreJson_iff,
      itemsAreJson_iff, normalItems_eq_map, List.forall_mem_map]
    exact forall₂_congr fun item member => by rw [each item member]
  | object fields each =>
    rw [Value.normal, Value.isJson, Value.isJson, Bool.eq_iff_iff, fieldsAreJson_iff,
      fieldsAreJson_iff, normalFields_eq_map]
    simp only [sortFields, List.mem_insertionSort, List.forall_mem_map]
    exact forall₂_congr fun field member => by rw [each field member]
  | _ => rfl

/-- Two JSON values with the same sorted text differ at most in the order of fields. -/
theorem text_injective {left right : Value} (leftJson : left.isJson) (rightJson : right.isJson)
    (same : left.text = right.text) :
    left.normal = right.normal := by
  have texts : left.normal.print.toList ++ [] = right.normal.print.toList ++ [] := by
    rw [List.append_nil, List.append_nil]
    exact congrArg String.toList same
  have stops : StopsNumber [] := by
    intro c head
    cases head
  exact (print_delimited left.normal right.normal [] [] (by rw [isJson_normal, leftJson])
    (by rw [isJson_normal, rightJson]) stops stops texts).1

/-- Numbers print apart. -/
theorem toString_injective {left right : Nat} (same : toString left = toString right) :
    left = right := by
  rw [Nat.toString_eq_repr, Nat.toString_eq_repr] at same
  have digits : Nat.toDigits 10 left = Nat.toDigits 10 right := by
    rw [← Nat.toList_repr, ← Nat.toList_repr, same]
  rw [← Nat.ofDigitChars_toDigits (b := 10) (n := left) (by decide) (by decide), digits,
    Nat.ofDigitChars_toDigits (by decide) (by decide)]

/-- Counters print apart. -/
theorem ofNat_injective {left right : Nat} (same : Value.ofNat left = Value.ofNat right) :
    left = right := by
  have texts : toString left = toString right := by
    simpa [Value.ofNat, JsonNumber.ofNat] using same
  exact toString_injective texts

/-- Objects that differ in the order of fields have the same value at every key. -/
theorem lookup_of_normal {left right : List (String × Value)} (distinct : (left.map Prod.fst).Nodup)
    (same : (Value.object left).normal = (Value.object right).normal) (key : String) :
    (left.lookup key).map Value.normal = (right.lookup key).map Value.normal := by
  have sorted : sortFields (normalFields left) = sortFields (normalFields right) := by
    simpa only [Value.normal, Value.object.injEq] using same
  have perm : (normalFields left).Perm (normalFields right) := by
    have first := List.perm_insertionSort (fun a b : String × Value =>
      unitsLe (utf16 a.1) (utf16 b.1) = true) (normalFields left)
    have second := List.perm_insertionSort (fun a b : String × Value =>
      unitsLe (utf16 a.1) (utf16 b.1) = true) (normalFields right)
    exact (first.symm.trans (List.Perm.of_eq sorted)).trans second
  have keys : ((normalFields left).map Prod.fst).Nodup := by
    simpa [normalFields_eq_map, Function.comp_def] using distinct
  have found (fields : List (String × Value)) :
      (normalFields fields).lookup key = (fields.lookup key).map Value.normal := by
    rw [normalFields_eq_map]
    exact ObjectFields.lookup_mapValues Value.normal fields key
  rw [← found, ← found, ObjectFields.lookup_perm keys perm]

end CallCenter.JsonText
