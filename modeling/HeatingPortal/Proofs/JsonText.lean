import HeatingPortal.Proofs.NumberText

/-!
# JSON documents read back

A document whose numbers are finite is read as it was written (`read?_write`). Its text is cut
into its tokens, because no part of it runs on into the next (`Lexes`), and taking these one by
one leads from before a value to after it (`foldlM_tokens`).
-/

namespace HeatingPortal.Text

open Number JsonToken

/-- A document that has a text: its numbers are finite. -/
inductive Json.Finite : Json → Prop
  | null : Finite .null
  | bool (value : Bool) : Finite (.bool value)
  | integer (value : ℤ) : Finite (.integer value)
  | number {value : Binary64} (h : value.isFinite = true) : Finite (.number value)
  | string (value : String) : Finite (.string value)
  | array {items : List Json} (h : ∀ item ∈ items, Finite item) : Finite (.array items)
  | object {fields : List (String × Json)} (h : ∀ field ∈ fields, Finite field.2) :
      Finite (.object fields)

mutual

/-- The tokens of a document. -/
def Json.tokens : Json → List JsonToken
  | .string value => [.string value]
  | .array items => .openArray :: ([.comma].intercalate (itemTokens items) ++ [.closeArray])
  | .object fields =>
    .openObject :: ([.comma].intercalate (fieldTokens fields) ++ [.closeObject])
  | value => [.leaf value]

/-- The tokens of the items of an array. -/
def Json.itemTokens : List Json → List (List JsonToken)
  | [] => []
  | item :: rest => item.tokens :: itemTokens rest

/-- The tokens of the fields of an object. -/
def Json.fieldTokens : List (String × Json) → List (List JsonToken)
  | [] => []
  | (name, value) :: rest => (.string name :: .colon :: value.tokens) :: fieldTokens rest

end

/-! ### Cutting a text -/

/-- The characters that are a token of their own. -/
inductive Mark : Char → JsonToken → Prop
  | openArray : Mark '[' .openArray
  | closeArray : Mark ']' .closeArray
  | openObject : Mark '\x7b' .openObject
  | closeObject : Mark '\x7d' .closeObject
  | comma : Mark ',' .comma
  | colon : Mark ':' .colon

/-- A text that neither goes on with a word nor begins with a blank. -/
def Ends (cs : List Char) : Prop :=
  ∀ c ∈ cs.head?, isWordChar c = false ∧ isJsonBlank c = false

/-- A text that is cut into some tokens, whatever comes after its end. -/
structure Lexes (cs : List Char) (tokens : List JsonToken) : Prop where
  begins : ∃ c rest, cs = c :: rest ∧ isJsonBlank c = false
  all : ∀ rest, Ends rest → all? (cs ++ rest) = (all? rest).map (tokens ++ ·)

section

variable {c : Char} {cs rest more : List Char} {token : JsonToken}
  {tokens later : List JsonToken}

lemma Mark.first? (h : Mark c token) (rest : List Char) :
    first? (c :: rest) = some (token, rest) := by
  cases h <;> rfl

lemma Mark.ends (h : Mark c token) (rest : List Char) : Ends (c :: rest) := by
  intro d hmem
  obtain rfl := Option.mem_some_iff.mp hmem
  cases h <;> decide

lemma ends_nil : Ends [] := by
  intro c hmem
  cases hmem

lemma Ends.dropWhile_blank (h : Ends rest) : rest.dropWhile isJsonBlank = rest := by
  rw [List.dropWhile_eq_self_iff]
  cases rest with
  | nil => simp
  | cons c rest => simp [(h c rfl).2]

lemma Lexes.dropWhile_blank (h : Lexes cs tokens) (rest : List Char) :
    (cs ++ rest).dropWhile isJsonBlank = cs ++ rest := by
  obtain ⟨c, more, rfl, hc⟩ := h.begins
  simp [hc]

/-- The first token of a text is taken from it. -/
lemma all?_of_first? (hfirst : first? cs = some (token, rest))
    (hblank : rest.dropWhile isJsonBlank = rest) (hshorter : rest.length < cs.length) :
    all? cs = (all? rest).map (token :: ·) := by
  have hempty : cs.isEmpty = false := by
    cases cs with
    | nil => cases hfirst
    | cons => rfl
  rw [all?, hempty]
  simp only [hfirst, hblank, hshorter, Bool.false_eq_true, if_false, if_true]

namespace Lexes

lemma of_first? (hbegins : ∃ c rest, cs = c :: rest ∧ isJsonBlank c = false)
    (hfirst : ∀ rest, Ends rest → first? (cs ++ rest) = some (token, rest)) :
    Lexes cs [token] := by
  refine ⟨hbegins, fun rest hrest => ?_⟩
  have hlonger : rest.length < (cs ++ rest).length := by
    obtain ⟨c, more, rfl, -⟩ := hbegins
    simp only [List.cons_append, List.length_cons, List.length_append]
    omega
  exact all?_of_first? (hfirst rest hrest) hrest.dropWhile_blank hlonger

lemma of_mark (hmark : Mark c token) : Lexes [c] [token] := by
  refine of_first? ⟨c, [], rfl, (hmark.ends [] c rfl).2⟩ fun rest _ => ?_
  exact hmark.first? rest

/-- A mark in front is a token more. -/
lemma cons (hmark : Mark c token) (h : Lexes cs tokens) : Lexes (c :: cs) (token :: tokens) := by
  refine ⟨⟨c, cs, rfl, (hmark.ends [] c rfl).2⟩, fun rest hrest => ?_⟩
  have hshorter : (cs ++ rest).length < (c :: cs ++ rest).length := by simp
  rw [List.cons_append] at hshorter ⊢
  rw [all?_of_first? (hmark.first? _) (h.dropWhile_blank rest) hshorter, h.all rest hrest,
    Option.map_map]
  rfl

/-- A text that ends before the next one is cut at that place. -/
lemma append (h : Lexes cs tokens) (hlater : Lexes more later)
    (hends : ∀ rest, Ends (more ++ rest)) :
    Lexes (cs ++ more) (tokens ++ later) := by
  obtain ⟨c, front, hcs, hc⟩ := h.begins
  refine ⟨⟨c, front ++ more, by rw [hcs]; rfl, hc⟩, fun rest hrest => ?_⟩
  rw [List.append_assoc, h.all _ (hends rest), hlater.all rest hrest, Option.map_map]
  congr 1
  funext tail
  exact (List.append_assoc tokens later tail).symm

/-- Texts between commas are cut at the commas. -/
lemma intercalate {texts : List (List Char)} {parts : List (List JsonToken)}
    (h : List.Forall₂ Lexes texts parts) (hne : texts ≠ []) :
    Lexes ([','].intercalate texts) ([.comma].intercalate parts) := by
  induction h with
  | nil => exact absurd rfl hne
  | @cons text part texts parts hfirst hrest ih =>
    cases hrest with
    | nil => simpa using hfirst
    | cons =>
      rw [List.intercalate_cons_cons, List.intercalate_cons_cons, List.append_assoc,
        List.append_assoc]
      exact hfirst.append (cons .comma (ih (List.cons_ne_nil _ _))) (fun _ => Mark.comma.ends _)

/-- Brackets around texts between commas are tokens of their own. -/
lemma enclosed {texts : List (List Char)} {parts : List (List JsonToken)}
    {opening closing : Char} {opened closed : JsonToken} (hopening : Mark opening opened)
    (hclosing : Mark closing closed) (h : List.Forall₂ Lexes texts parts) :
    Lexes (opening :: ([','].intercalate texts ++ [closing]))
      (opened :: ([.comma].intercalate parts ++ [closed])) := by
  apply cons hopening
  by_cases hne : texts = []
  · subst hne
    cases h
    exact of_mark hclosing
  · exact (intercalate h hne).append (of_mark hclosing) (fun _ => hclosing.ends _)

end Lexes

end

/-! ### Strings -/

lemma codeUnit?_control {code : ℕ} (h : code < 32) (rest : List Char) :
    codeUnit? ('0' :: '0' :: Nat.digitChar (code / 16) :: Nat.digitChar (code % 16) :: rest) =
      some (code, rest) := by
  have hdigits : ∀ code < 32, hexDigit? (Nat.digitChar (code / 16)) = some (code / 16) ∧
      hexDigit? (Nat.digitChar (code % 16)) = some (code % 16) := by decide
  obtain ⟨hhigh, hlow⟩ := hdigits code h
  have hzero : hexDigit? '0' = some 0 := rfl
  have hcode : ((0 * 16 + 0) * 16 + code / 16) * 16 + code % 16 = code := by omega
  simp only [codeUnit?, hzero, hhigh, hlow, Option.bind_eq_bind, Option.bind_some]
  rw [hcode]
  rfl

lemma stringBody?_letter {letter c : Char} (hletter : escapedLetter? letter = some c) (limit : ℕ)
    (rest : List Char) : stringBody? (limit + 1) ('\\' :: letter :: rest) =
      (stringBody? limit rest).map fun (body, rest) => (c :: body, rest) := by
  have hunicode : letter ≠ 'u' := by
    rintro rfl
    cases hletter
  rw [stringBody?.eq_5 _ _ _ hunicode]
  simp only [hletter, Option.bind_eq_bind, Option.bind_some]
  cases stringBody? limit rest <;> rfl

lemma stringBody?_plain {c : Char} (hquote : c ≠ '"') (hslash : c ≠ '\\')
    (hplain : ¬c.toNat < 0x20) (limit : ℕ) (rest : List Char) :
    stringBody? (limit + 1) (c :: rest) =
      (stringBody? limit rest).map fun (body, rest) => (c :: body, rest) := by
  rw [stringBody?]
  · simp [hslash, hplain]
  · simpa using hquote
  · simp [hslash]
  · simp [hslash]

lemma stringBody?_control {c : Char} (hcontrol : c.toNat < 0x20) (limit : ℕ) (rest : List Char) :
    stringBody? (limit + 1) ('\\' :: 'u' :: '0' :: '0' :: Nat.digitChar (c.toNat / 16) ::
        Nat.digitChar (c.toNat % 16) :: rest) =
      (stringBody? limit rest).map fun (body, rest) => (c :: body, rest) := by
  have hescaped : escapedCode? ('0' :: '0' :: Nat.digitChar (c.toNat / 16) ::
      Nat.digitChar (c.toNat % 16) :: rest) = some (c, rest) := by
    have hlow : ¬(0xD800 ≤ c.toNat ∧ c.toNat < 0xDC00) := by omega
    have hvalid : c.toNat.isValidChar := .inl (by omega)
    simp only [escapedCode?, codeUnit?_control hcontrol, Option.bind_eq_bind, Option.bind_some,
      if_neg hlow, if_pos hvalid, Char.ofNat_toNat]
    rfl
  rw [stringBody?]
  simp only [hescaped, Option.bind_eq_bind, Option.bind_some]
  cases stringBody? limit rest <;> rfl

/-- What stands for a character in a string is read as that character. -/
lemma stringBody?_stringChar (c : Char) (limit : ℕ) (rest : List Char) :
    stringBody? (limit + 1) (Json.stringChar c ++ rest) =
      (stringBody? limit rest).map fun (body, rest) => (c :: body, rest) := by
  unfold Json.stringChar
  split
  case h_8 hquote hslash _ _ _ _ _ =>
    split
    · next hcontrol => exact stringBody?_control hcontrol limit rest
    · next hplain => exact stringBody?_plain hquote hslash hplain limit rest
  all_goals exact stringBody?_letter rfl limit rest

lemma stringBody?_flatMap {cs : List Char} {limit : ℕ} (hlimit : cs.length < limit)
    (rest : List Char) :
    stringBody? limit (cs.flatMap Json.stringChar ++ '"' :: rest) = some (cs, rest) := by
  induction cs generalizing limit with
  | nil =>
    cases limit with
    | zero => cases hlimit
    | succ => rfl
  | cons c cs ih =>
    cases limit with
    | zero => cases hlimit
    | succ limit =>
      rw [List.flatMap_cons, List.append_assoc, stringBody?_stringChar,
        ih (Nat.lt_of_succ_lt_succ hlimit)]
      rfl

lemma length_le_flatMap (cs : List Char) : cs.length ≤ (cs.flatMap Json.stringChar).length := by
  induction cs with
  | nil => simp
  | cons c cs ih =>
    have hone : 1 ≤ (Json.stringChar c).length := by
      unfold Json.stringChar
      repeat' split
      all_goals simp
    simp only [List.flatMap_cons, List.length_append, List.length_cons]
    omega

lemma lexes_writeString (text : String) :
    Lexes (Json.writeString text).toList [.string text] := by
  rw [Json.writeString, String.toList_ofList]
  refine .of_first? ⟨'"', _, rfl, rfl⟩ fun rest _ => ?_
  have hbody : stringBody?
      ((text.toList.flatMap Json.stringChar ++ '"' :: rest).length + 1)
      (text.toList.flatMap Json.stringChar ++ '"' :: rest) = some (text.toList, rest) := by
    apply stringBody?_flatMap
    have hlength := length_le_flatMap text.toList
    rw [List.length_append]
    omega
  rw [List.cons_append, List.append_assoc, List.singleton_append]
  simp only [first?, hbody, Option.map_some, String.ofList_toList]

/-! ### Words and numbers -/

section

variable {c : Char} {cs : List Char} {value : Json}

lemma isJsonBlank_of_isWordChar (h : isWordChar c = true) : isJsonBlank c = false := by
  by_contra hblank
  simp only [isJsonBlank, Bool.or_eq_true, decide_eq_true_iff, Bool.not_eq_false] at hblank
  rcases hblank with ((rfl | rfl) | rfl) | rfl <;> exact absurd h (by decide)

/-- Characters of words are taken together. -/
lemma Lexes.of_word (hall : (c :: cs).all isWordChar = true)
    (hword : JsonToken.word? (c :: cs) = some value) : Lexes (c :: cs) [.leaf value] := by
  have hchars := List.all_eq_true.mp hall
  have hc : isWordChar c = true := hchars c List.mem_cons_self
  refine .of_first? ⟨c, cs, rfl, isJsonBlank_of_isWordChar hc⟩ fun rest hrest => ?_
  have hends : rest.takeWhile isWordChar = [] ∧ rest.dropWhile isWordChar = rest := by
    cases rest with
    | nil => exact ⟨rfl, rfl⟩
    | cons d rest => simp [(hrest d rfl).1]
  have htake : (c :: cs ++ rest).takeWhile isWordChar = c :: cs := by
    rw [List.takeWhile_append_of_pos hchars, hends.1, List.append_nil]
  have hdrop : (c :: cs ++ rest).dropWhile isWordChar = rest := by
    rw [List.dropWhile_append_of_pos hchars, hends.2]
  unfold first?
  split
  case h_9 => rw [htake, hdrop, hword, Option.map_some]
  all_goals
    next heq =>
    cases heq
    try exact absurd hc (by decide)

/-- A text that begins as a number is read as one. -/
lemma word?_eq_number? (h : c.isDigit = true ∨ c = '-') :
    JsonToken.word? (c :: cs) = number? (c :: cs) := by
  have hhead (word : String) (hword : String.ofList (c :: cs) = word) :
      word.toList.head? = some c := by
    rw [← hword, String.toList_ofList]
    rfl
  unfold JsonToken.word?
  split
  case h_4 => rfl
  all_goals
    next heq =>
    obtain rfl := Option.some.inj (hhead _ heq)
    exact absurd h (by decide)

lemma lexes_number (hchars : ∀ d ∈ cs, isWordChar d = true)
    (hhead : ∃ d rest, cs = d :: rest ∧ (d.isDigit = true ∨ d = '-'))
    (hnumber : number? cs = some value) : Lexes cs [.leaf value] := by
  obtain ⟨d, rest, rfl, hd⟩ := hhead
  exact .of_word (List.all_eq_true.mpr hchars) ((word?_eq_number? hd).trans hnumber)

end

lemma lexes_ofInteger (n : ℤ) : Lexes (ofInteger n).toList [.leaf (.integer n)] := by
  refine lexes_number (fun _ => isWordChar_of_mem_ofInteger) ?_ (number?_ofInteger n)
  cases htext : (ofInteger n).toList with
  | nil => exact absurd htext (ofInteger_ne_nil n)
  | cons d rest =>
    have hmem : d ∈ (ofInteger n).toList := htext ▸ List.mem_cons_self
    exact ⟨d, rest, rfl, isDigit_or_minus_of_mem_ofInteger hmem⟩

/-- A spelled decimal is one token, with a minus in front or without. -/
lemma Spells.lexes {cs : List Char} {digits : ℕ} {exponent : ℤ} (h : Spells cs digits exponent)
    (negative : Bool) {value : Json}
    (hnumber : number? (if negative then '-' :: cs else cs) = some value) :
    Lexes (if negative then '-' :: cs else cs) [.leaf value] := by
  obtain ⟨d, rest, hcs, hd⟩ := h.exists_digit
  cases negative with
  | true =>
    rw [if_pos rfl] at hnumber ⊢
    refine lexes_number ?_ ⟨'-', cs, rfl, .inr rfl⟩ hnumber
    exact List.forall_mem_cons.mpr ⟨rfl, h.isWordChar⟩
  | false => exact lexes_number h.isWordChar ⟨d, rest, hcs, .inl hd⟩ hnumber

lemma lexes_write {value : Binary64} (h : value.isFinite = true) :
    Lexes (jsonLayout.write value).toList [.leaf (.number value)] := by
  have hnumber := number?_write h
  cases value with
  | nan | infinite => cases h
  | finite negative magnitude =>
    obtain ⟨spelled, exponent, hspells, -⟩ := spells_magnitude negative magnitude
    rw [Layout.write, Layout.signed, String.toList_ofList] at hnumber ⊢
    exact hspells.lexes negative hnumber

/-! ### Documents -/

lemma lexes_items {items : List Json} (h : ∀ item ∈ items, Lexes item.write.toList item.tokens) :
    List.Forall₂ Lexes ((Json.writeItems items).map String.toList) (Json.itemTokens items) := by
  induction items with
  | nil => exact .nil
  | cons item rest ih =>
    obtain ⟨hitem, hrest⟩ := List.forall_mem_cons.mp h
    exact .cons hitem (ih hrest)

lemma lexes_fields {fields : List (String × Json)}
    (h : ∀ field ∈ fields, Lexes field.2.write.toList field.2.tokens) :
    List.Forall₂ Lexes ((Json.writeFields fields).map String.toList)
      (Json.fieldTokens fields) := by
  induction fields with
  | nil => exact .nil
  | cons field rest ih =>
    obtain ⟨name, value⟩ := field
    obtain ⟨hvalue, hrest⟩ := List.forall_mem_cons.mp h
    have hfield :=
      (lexes_writeString name).append (.cons .colon hvalue) fun _ => Mark.colon.ends _
    refine .cons ?_ (ih hrest)
    rw [String.toList_append, String.toList_append, List.append_assoc]
    exact hfield

/-- The text of a document is cut into its tokens. -/
theorem Json.Finite.lexes {json : Json} (h : json.Finite) :
    Lexes json.write.toList json.tokens := by
  induction h with
  | null => exact .of_word (by decide) rfl
  | bool value => cases value <;> exact .of_word (by decide) rfl
  | integer value => exact lexes_ofInteger value
  | number hfinite =>
    rw [Json.write, Json.writeNumber, if_pos hfinite]
    exact lexes_write hfinite
  | string value => exact lexes_writeString value
  | array _ ih =>
    rw [Json.write, String.toList_append, String.toList_append, String.toList_intercalate]
    exact .enclosed .openArray .closeArray (lexes_items ih)
  | object _ ih =>
    rw [Json.write, String.toList_append, String.toList_append, String.toList_intercalate]
    exact .enclosed .openObject .closeObject (lexes_fields ih)

/-! ### Taking the tokens -/

namespace JsonReader

variable {json : Json} {token : JsonToken} {place : JsonPlace} {items : List Json}
  {fields : List (String × Json)}

/-- A place where a value may begin. -/
inductive Awaits : JsonPlace → Prop
  | value : Awaits .beforeValue
  | item : Awaits .beforeItem

/-- The tokens of a document lead from before it to after it. -/
def Reads (json : Json) : Prop :=
  ∀ opened place, Awaits place →
    json.tokens.foldlM next? ⟨opened, place⟩ = some ⟨opened, .afterValue json⟩

lemma next?_of_awaits (h : Awaits place) (htoken : token ≠ .closeArray)
    (opened : List JsonOpen) :
    next? ⟨opened, place⟩ token = beginValue? ⟨opened, place⟩ token := by
  cases h with
  | value => rfl
  | item =>
    cases token with
    | closeArray => exact absurd rfl htoken
    | _ => rfl

lemma reads_string (value : String) : Reads (.string value) := by
  intro opened place hplace
  rw [Json.tokens, List.foldlM_cons, next?_of_awaits hplace (by simp)]
  rfl

lemma reads_leaf (htokens : json.tokens = [.leaf json]) : Reads json := by
  intro opened place hplace
  rw [htokens, List.foldlM_cons, next?_of_awaits hplace (by simp)]
  rfl

/-- The items of an array are taken up to its end. -/
lemma foldlM_items (hne : items ≠ []) (h : ∀ item ∈ items, Reads item)
    (opened : List JsonOpen) (done : List Json) (hplace : Awaits place) :
    ([comma].intercalate (Json.itemTokens items) ++ [closeArray]).foldlM next?
        ⟨.array done :: opened, place⟩ =
      some ⟨opened, .afterValue (.array (done.reverse ++ items))⟩ := by
  induction items generalizing done place with
  | nil => exact absurd rfl hne
  | cons item rest ih =>
    obtain ⟨hitem, hrest⟩ := List.forall_mem_cons.mp h
    cases rest with
    | nil =>
      simp only [Json.itemTokens, List.intercalate_singleton, List.foldlM_append,
        hitem _ _ hplace]
      simp [next?]
    | cons second rest =>
      have hlater := ih (List.cons_ne_nil _ _) hrest (item :: done) .value
      simp only [Json.itemTokens, List.intercalate_cons_cons, List.append_assoc,
        List.foldlM_append, hitem _ _ hplace] at hlater ⊢
      simpa [next?] using hlater

lemma reads_array (h : ∀ item ∈ items, Reads item) : Reads (.array items) := by
  intro opened place hplace
  rw [Json.tokens, List.foldlM_cons, next?_of_awaits hplace (by simp)]
  by_cases hne : items = []
  · subst hne
    rfl
  · exact foldlM_items hne h opened [] .item

/-- The fields of an object are taken up to its end. -/
lemma foldlM_fields (hne : fields ≠ []) (h : ∀ field ∈ fields, Reads field.2)
    (opened : List JsonOpen) (done : List (String × Json)) (first : Bool) :
    ([comma].intercalate (Json.fieldTokens fields) ++ [closeObject]).foldlM next?
        ⟨opened, .beforeKey done first⟩ =
      some ⟨opened, .afterValue (.object (done.reverse ++ fields))⟩ := by
  induction fields generalizing done first with
  | nil => exact absurd rfl hne
  | cons field rest ih =>
    obtain ⟨name, value⟩ := field
    obtain ⟨hvalue, hrest⟩ := List.forall_mem_cons.mp h
    have hfield : (.string name :: .colon :: value.tokens).foldlM next?
        ⟨opened, .beforeKey done first⟩ =
          some ⟨.object done name :: opened, .afterValue value⟩ :=
      hvalue _ _ .value
    cases rest with
    | nil =>
      simp only [Json.fieldTokens, List.intercalate_singleton, List.foldlM_append, hfield]
      simp [next?]
    | cons second rest =>
      have hlater := ih (List.cons_ne_nil _ _) hrest ((name, value) :: done) false
      simp only [Json.fieldTokens, List.intercalate_cons_cons, List.append_assoc,
        List.foldlM_append, hfield] at hlater ⊢
      simpa [next?] using hlater

lemma reads_object (h : ∀ field ∈ fields, Reads field.2) : Reads (.object fields) := by
  intro opened place hplace
  rw [Json.tokens, List.foldlM_cons, next?_of_awaits hplace (by simp)]
  by_cases hne : fields = []
  · subst hne
    rfl
  · exact foldlM_fields hne h opened [] true

end JsonReader

/-- Taking the tokens of a document builds it. -/
lemma Json.Finite.reads {json : Json} (h : json.Finite) : JsonReader.Reads json := by
  induction h with
  | null | bool | integer | number => exact JsonReader.reads_leaf rfl
  | string value => exact JsonReader.reads_string value
  | array _ ih => exact JsonReader.reads_array ih
  | object _ ih => exact JsonReader.reads_object ih

/-- A document whose numbers are finite is read as it was written. -/
theorem Json.Finite.read?_write {json : Json} (h : json.Finite) :
    Json.read? json.write = some json := by
  have hblank := h.lexes.dropWhile_blank []
  have htokens := h.lexes.all [] ends_nil
  have hnone : all? [] = some [] := by
    rw [all?]
    rfl
  rw [List.append_nil] at hblank htokens
  rw [hnone, Option.map_some, List.append_nil] at htokens
  rw [Json.read?, hblank, htokens]
  simp only [Option.bind_eq_bind, Option.bind_some, h.reads [] _ .value]
  rfl

end HeatingPortal.Text
