import Mathlib.Data.List.Basic
import Mathlib.Data.Nat.Notation

/-!
# JSON documents and the values they are written from

`JSON.stringify` writes a value to a document, and a document to its text
without indentation. The text determines the document, but not the value:
reading `1e400` gives an infinite number, which is written as `null`, and the
two zeros are written alike. Strings hold no half of a surrogate pair on its own.
-/

/-- A finite number, carried as the text JavaScript prints for it. -/
structure Numeral where
  text : List Char
  nonempty : text ≠ []
  digits : text.all fun char => char ∈ "0123456789+-.e".toList

/-- A JSON document. -/
inductive Json where
  | null
  | bool (value : Bool)
  | number (numeral : Numeral)
  | string (value : String)
  | array (items : List Json)
  | object (fields : List (String × Json))

namespace Json

/-- A hexadecimal digit, in lower case. -/
def hexDigit (digit : ℕ) : Char :=
  if digit < 10 then Char.ofNat (48 + digit) else Char.ofNat (87 + digit)

/-- A character as it stands in the text of a string. -/
def escapeChar (char : Char) : List Char :=
  match char with
  | '"' => ['\\', '"']
  | '\\' => ['\\', '\\']
  | '\n' => ['\\', 'n']
  | '\r' => ['\\', 'r']
  | '\t' => ['\\', 't']
  | char =>
      if char.toNat = 8 then ['\\', 'b']
      else if char.toNat = 12 then ['\\', 'f']
      else if char.toNat < 32 then
        ['\\', 'u', '0', '0', hexDigit (char.toNat / 16), hexDigit (char.toNat % 16)]
      else [char]

/-- The text of a string, up to and including the closing quote. -/
def escape : List Char → List Char
  | [] => ['"']
  | char :: rest => escapeChar char ++ escape rest

/-- The text of a string with its quotes. -/
def quote (text : String) : List Char :=
  '"' :: escape text.toList

mutual

/-- The text of a document. -/
def render : Json → List Char
  | .null => "null".toList
  | .bool true => "true".toList
  | .bool false => "false".toList
  | .number numeral => numeral.text
  | .string value => quote value
  | .array [] => ['[', ']']
  | .array (item :: items) => '[' :: (item.render ++ renderItems items)
  | .object [] => ['{', '}']
  | .object ((name, value) :: fields) =>
      '{' :: (quote name ++ ':' :: (value.render ++ renderFields fields))

/-- The rest of an array after one of its items. -/
def renderItems : List Json → List Char
  | [] => [']']
  | item :: items => ',' :: (item.render ++ renderItems items)

/-- The rest of an object after one of its fields. -/
def renderFields : List (String × Json) → List Char
  | [] => ['}']
  | (name, value) :: fields =>
      ',' :: (quote name ++ ':' :: (value.render ++ renderFields fields))

end

/-- `JSON.stringify` of a document. -/
def stringify (json : Json) : String :=
  String.ofList json.render

/-- The value of a hexadecimal digit. -/
def hexValue (char : Char) : ℕ :=
  if char.toNat < 58 then char.toNat - 48 else char.toNat - 87

/-- Reads one character of a string's text. -/
def unescape : List Char → Option (Char × List Char)
  | '\\' :: 'n' :: rest => some ('\n', rest)
  | '\\' :: 'r' :: rest => some ('\r', rest)
  | '\\' :: 't' :: rest => some ('\t', rest)
  | '\\' :: 'b' :: rest => some (Char.ofNat 8, rest)
  | '\\' :: 'f' :: rest => some (Char.ofNat 12, rest)
  | '\\' :: 'u' :: _ :: _ :: high :: low :: rest =>
      some (Char.ofNat (16 * hexValue high + hexValue low), rest)
  | '\\' :: char :: rest => some (char, rest)
  | char :: rest => some (char, rest)
  | [] => none

theorem hexValue_hexDigit (digit : ℕ) (bound : digit < 16) :
    hexValue (hexDigit digit) = digit := by
  revert digit
  decide

theorem unescape_escapeChar (char : Char) (rest : List Char) :
    unescape (escapeChar char ++ rest) = some (char, rest) := by
  simp only [escapeChar]
  split
  · rfl
  · rfl
  · rfl
  · rfl
  · rfl
  · next quote backslash _ _ _ =>
      split
      · next backspace =>
          rw [← Char.ofNat_toNat char, backspace]
          rfl
      · split
        · next formFeed =>
            rw [← Char.ofNat_toNat char, formFeed]
            rfl
        · split
          · next control =>
              have high := hexValue_hexDigit (char.toNat / 16) (by omega)
              have low := hexValue_hexDigit (char.toNat % 16) (by omega)
              have value : 16 * (char.toNat / 16) + char.toNat % 16 = char.toNat := by omega
              simp [unescape, high, low, value]
          · simp only [List.cons_append, List.nil_append]
            simp only [unescape]
            split <;> simp_all

theorem escapeChar_head (char : Char) (rest : List Char) :
    ∀ tail, escapeChar char ++ rest ≠ '"' :: tail := by
  intro tail same
  have read := unescape_escapeChar char rest
  simp only [same] at read
  obtain ⟨rfl, -⟩ : '"' = char ∧ tail = rest := by simpa [unescape] using read
  simp [escapeChar] at same

/-- The closing quote tells where a string ends. -/
theorem escape_injective {first second s t : List Char}
    (same : escape first ++ s = escape second ++ t) : first = second ∧ s = t := by
  induction first generalizing second with
  | nil =>
      cases second with
      | nil => simpa [escape] using same
      | cons char rest =>
          simp only [escape, List.append_assoc, List.cons_append, List.nil_append] at same
          exact absurd same.symm (escapeChar_head char _ s)
  | cons char rest ih =>
      cases second with
      | nil =>
          simp only [escape, List.append_assoc, List.cons_append, List.nil_append] at same
          exact absurd same (escapeChar_head char _ t)
      | cons char' rest' =>
          simp only [escape, List.append_assoc] at same
          have read := unescape_escapeChar char (escape rest ++ s)
          simp only [same, unescape_escapeChar] at read
          obtain ⟨rfl, rests⟩ : char' = char ∧ escape rest' ++ t = escape rest ++ s := by
            simpa using read
          obtain ⟨rfl, rfl⟩ := ih rests.symm
          exact ⟨rfl, rfl⟩

theorem quote_injective {first second : String} {s t : List Char}
    (same : quote first ++ s = quote second ++ t) : first = second ∧ s = t := by
  simp only [quote, List.cons_append, List.cons.injEq, true_and] at same
  obtain ⟨texts, rests⟩ := escape_injective same
  exact ⟨String.toList_inj.mp texts, rests⟩

/-- What may follow a value inside a text: nothing, or a character no number contains. -/
def Ends (rest : List Char) : Prop :=
  ∀ char ∈ rest.head?, char ∉ "0123456789+-.e".toList

theorem numeral_injective {first second : Numeral} {s t : List Char} (ends : Ends s)
    (ends' : Ends t) (same : first.text ++ s = second.text ++ t) : first = second ∧ s = t := by
  have taken : ∀ (numeral : Numeral) (rest : List Char), Ends rest →
      (numeral.text ++ rest).takeWhile (· ∈ "0123456789+-.e".toList) = numeral.text := by
    intro numeral rest ends
    rw [List.takeWhile_append_of_pos (List.all_eq_true.mp numeral.digits)]
    cases rest with
    | nil => simp
    | cons char rest =>
        have stop : char ∉ "0123456789+-.e".toList := ends char rfl
        rw [List.takeWhile_cons_of_neg (by simpa using stop), List.append_nil]
  have texts : first.text = second.text := by
    rw [← taken first s ends, same, taken second t ends']
  simp only [texts] at same
  refine ⟨?_, List.append_cancel_left same⟩
  cases first
  cases second
  simp_all

/-- What kind of value a text starts, by its first character. -/
def kind : Char → ℕ
  | 'n' => 0
  | 't' => 1
  | 'f' => 2
  | '"' => 3
  | '[' => 4
  | '{' => 5
  | ']' => 7
  | _ => 6

/-- What kind of value a document is, numbered as the first characters are. -/
def tag : Json → ℕ
  | .null => 0
  | .bool true => 1
  | .bool false => 2
  | .string _ => 3
  | .array _ => 4
  | .object _ => 5
  | .number _ => 6

theorem render_head (json : Json) :
    ∃ char tail, json.render = char :: tail ∧ kind char = json.tag := by
  cases json with
  | null => exact ⟨'n', _, rfl, rfl⟩
  | bool value => cases value <;> exact ⟨_, _, rfl, rfl⟩
  | number numeral =>
      obtain ⟨char, tail, text⟩ := List.exists_cons_of_ne_nil numeral.nonempty
      have digit := List.all_eq_true.mp numeral.digits char (by simp [text])
      refine ⟨char, tail, by simp [render, text], ?_⟩
      revert digit char
      have digits : "0123456789+-.e".toList.all (fun char => kind char = 6) := by decide
      intro char _ digit
      simpa [tag] using List.all_eq_true.mp digits char (of_decide_eq_true digit)
  | string value => exact ⟨'"', _, rfl, rfl⟩
  | array items => cases items <;> exact ⟨'[', _, by rw [render], rfl⟩
  | object fields => cases fields <;> exact ⟨'{', _, by rw [render], rfl⟩

theorem tag_eq {first second : Json} {s t : List Char}
    (same : first.render ++ s = second.render ++ t) : first.tag = second.tag := by
  obtain ⟨char, tail, head, kind₁⟩ := render_head first
  obtain ⟨char', tail', head', kind₂⟩ := render_head second
  simp only [head, head', List.cons_append, List.cons_append, List.cons.injEq] at same
  rw [← kind₁, ← kind₂, same.1]

theorem render_not_closing (json : Json) (s t : List Char) : json.render ++ s ≠ ']' :: t := by
  intro same
  obtain ⟨char, tail, head, kind₁⟩ := render_head json
  simp only [head, List.cons_append, List.cons.injEq] at same
  simp only [same.1] at kind₁
  cases json with
  | bool value => cases value <;> simp [kind, tag] at kind₁
  | _ => simp [kind, tag] at kind₁

theorem Ends.renderItems (items : List Json) (rest : List Char) :
    Ends (renderItems items ++ rest) := by
  cases items <;> simp [Json.renderItems, Ends]

theorem Ends.renderFields (fields : List (String × Json)) (rest : List Char) :
    Ends (renderFields fields ++ rest) := by
  rcases fields with _ | ⟨⟨name, value⟩, fields⟩ <;> simp [Json.renderFields, Ends]

mutual

/-- The text of a value, which a number must not run on from, determines the value. -/
theorem render_injective : ∀ (first second : Json) {s t : List Char}, Ends s → Ends t →
    first.render ++ s = second.render ++ t → first = second ∧ s = t
  | .null, second, s, t, _, _, same => by
      have tags := tag_eq same
      rcases second with _ | ⟨⟨⟩⟩ | _ | _ | _ | _ <;> simp [tag] at tags
      simpa [render] using same
  | .bool true, second, s, t, _, _, same => by
      have tags := tag_eq same
      rcases second with _ | ⟨⟨⟩⟩ | _ | _ | _ | _ <;> simp [tag] at tags
      simpa [render] using same
  | .bool false, second, s, t, _, _, same => by
      have tags := tag_eq same
      rcases second with _ | ⟨⟨⟩⟩ | _ | _ | _ | _ <;> simp [tag] at tags
      simpa [render] using same
  | .number numeral, second, s, t, ends, ends', same => by
      have tags := tag_eq same
      rcases second with _ | ⟨⟨⟩⟩ | numeral' | _ | _ | _ <;> simp [tag] at tags
      simpa using numeral_injective ends ends' (by simpa [render] using same)
  | .string value, second, s, t, _, _, same => by
      have tags := tag_eq same
      rcases second with _ | ⟨⟨⟩⟩ | _ | value' | _ | _ <;> simp [tag] at tags
      simpa using quote_injective (by simpa [render] using same)
  | .array [], second, s, t, _, _, same => by
      have tags := tag_eq same
      rcases second with _ | ⟨⟨⟩⟩ | _ | _ | (_ | ⟨item', items'⟩) | _ <;> simp [tag] at tags
      · simpa [render] using same
      · simp only [render, List.cons_append, List.nil_append, List.append_assoc,
          List.cons.injEq, true_and] at same
        exact absurd same.symm (render_not_closing item' _ _)
  | .array (item :: items), second, s, t, _, _, same => by
      have tags := tag_eq same
      rcases second with _ | ⟨⟨⟩⟩ | _ | _ | (_ | ⟨item', items'⟩) | _ <;> simp [tag] at tags
      · simp only [render, List.cons_append, List.nil_append, List.append_assoc,
          List.cons.injEq, true_and] at same
        exact absurd same (render_not_closing item _ _)
      · simp only [render, List.cons_append, List.append_assoc, List.cons.injEq, true_and] at same
        obtain ⟨rfl, rests⟩ :=
          render_injective item item' (.renderItems _ _) (.renderItems _ _) same
        obtain ⟨rfl, rfl⟩ := renderItems_injective items items' rests
        exact ⟨rfl, rfl⟩
  | .object [], second, s, t, _, _, same => by
      have tags := tag_eq same
      rcases second with _ | ⟨⟨⟩⟩ | _ | _ | _ | (_ | ⟨⟨name', value'⟩, fields'⟩) <;>
        simp [tag] at tags
      · simpa [render] using same
      · simp [render, quote] at same
  | .object ((name, value) :: fields), second, s, t, _, _, same => by
      have tags := tag_eq same
      rcases second with _ | ⟨⟨⟩⟩ | _ | _ | _ | (_ | ⟨⟨name', value'⟩, fields'⟩) <;>
        simp [tag] at tags
      · simp [render, quote] at same
      · simp only [render, List.cons_append, List.append_assoc, List.cons.injEq, true_and] at same
        obtain ⟨rfl, values⟩ := quote_injective same
        simp only [List.cons.injEq] at values
        obtain ⟨rfl, rests⟩ :=
          render_injective value value' (.renderFields _ _) (.renderFields _ _) values.2
        obtain ⟨rfl, rfl⟩ := renderFields_injective fields fields' rests
        exact ⟨rfl, rfl⟩

theorem renderItems_injective : ∀ (first second : List Json) {s t : List Char},
    renderItems first ++ s = renderItems second ++ t → first = second ∧ s = t
  | [], second, s, t, same => by
      cases second with
      | nil => simpa [renderItems] using same
      | cons item' items' => simp [renderItems] at same
  | item :: items, second, s, t, same => by
      cases second with
      | nil => simp [renderItems] at same
      | cons item' items' =>
          simp only [renderItems, List.cons_append, List.append_assoc, List.cons.injEq,
            true_and] at same
          obtain ⟨rfl, rests⟩ :=
            render_injective item item' (.renderItems _ _) (.renderItems _ _) same
          obtain ⟨rfl, rfl⟩ := renderItems_injective items items' rests
          exact ⟨rfl, rfl⟩

theorem renderFields_injective : ∀ (first second : List (String × Json)) {s t : List Char},
    renderFields first ++ s = renderFields second ++ t → first = second ∧ s = t
  | [], second, s, t, same => by
      rcases second with _ | ⟨⟨name', value'⟩, fields'⟩
      · simpa [renderFields] using same
      · simp [renderFields] at same
  | (name, value) :: fields, second, s, t, same => by
      rcases second with _ | ⟨⟨name', value'⟩, fields'⟩
      · simp [renderFields] at same
      · simp only [renderFields, List.cons_append, List.append_assoc, List.cons.injEq,
          true_and] at same
        obtain ⟨rfl, values⟩ := quote_injective same
        simp only [List.cons.injEq] at values
        obtain ⟨rfl, rests⟩ :=
          render_injective value value' (.renderFields _ _) (.renderFields _ _) values.2
        obtain ⟨rfl, rfl⟩ := renderFields_injective fields fields' rests
        exact ⟨rfl, rfl⟩

end

theorem stringify_injective : Function.Injective stringify := by
  intro first second same
  have texts : first.render ++ [] = second.render ++ [] := by
    simpa [stringify] using String.ofList_injective same
  exact (render_injective first second (by simp [Ends]) (by simp [Ends]) texts).1

end Json

/-- A number that JavaScript has read from a document. -/
inductive JsNumber where
  | finite (numeral : Numeral)
  | negativeZero
  | infinite (negative : Bool)

/-- A value that JavaScript has read from a document. -/
inductive JsValue where
  | null
  | bool (value : Bool)
  | number (value : JsNumber)
  | string (value : String)
  | array (items : List JsValue)
  | object (fields : List (String × JsValue))

/-- A document has one zero and no infinite number. -/
def JsNumber.toJson : JsNumber → Json
  | .finite numeral => .number numeral
  | .negativeZero => .number ⟨['0'], by simp, by decide⟩
  | .infinite _ => .null

namespace JsValue

mutual

/-- The document that a value is written to. -/
def toJson : JsValue → Json
  | .null => .null
  | .bool value => .bool value
  | .number value => value.toJson
  | .string value => .string value
  | .array items => .array (itemsToJson items)
  | .object fields => .object (fieldsToJson fields)

def itemsToJson : List JsValue → List Json
  | [] => []
  | item :: items => item.toJson :: itemsToJson items

def fieldsToJson : List (String × JsValue) → List (String × Json)
  | [] => []
  | (name, value) :: fields => (name, value.toJson) :: fieldsToJson fields

end

/-- `JSON.stringify` of a value. -/
def stringify (value : JsValue) : String :=
  value.toJson.stringify

/-- Two values have the same text if they are written to the same document. -/
theorem stringify_eq_iff {first second : JsValue} :
    first.stringify = second.stringify ↔ first.toJson = second.toJson :=
  Json.stringify_injective.eq_iff

example : stringify (.number (.infinite false)) = stringify .null := rfl

end JsValue
