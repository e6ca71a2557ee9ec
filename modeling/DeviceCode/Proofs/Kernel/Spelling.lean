import Mathlib.Data.List.Forall2
import DeviceCode.Kernel.Metadata

/-!
# Written text is read as the value it spells

The parser is greedy: it takes a number as far as digits go, and stops at the first character that
cannot continue the value. So a text spells a value only as far as what follows lets it: `Spells`
asks that the parser reads the value off the front of the text and leaves exactly what follows, for
everything that follows and does not continue a number (`EndsNumber`). What the writer puts after a
value is a comma, a bracket or nothing, and none of these does.

The fuel that is enough for a text is its length: each recursive call comes after a character was
taken. `Spells` carries this bound, so it is never looked at again for a compound text.
-/

namespace DeviceCode.JsonText

open Metadata

/-! ## Numbers -/

/-- A number that stands before this text does not go on into it. -/
def EndsNumber (rest : List Char) : Prop :=
  ∀ c ∈ rest.head?, c.isDigit = false ∧ c ≠ '.' ∧ c ≠ 'e' ∧ c ≠ 'E'

theorem endsNumber_nil : EndsNumber [] := nofun

theorem endsNumber_cons {c : Char} {rest : List Char}
    (h : c.isDigit = false ∧ c ≠ '.' ∧ c ≠ 'e' ∧ c ≠ 'E') : EndsNumber (c :: rest) := by
  intro d hd
  cases hd
  exact h

theorem takeDigits_append {digits rest : List Char} (hdigits : ∀ c ∈ digits, c.isDigit = true)
    (hrest : EndsNumber rest) : takeDigits (digits ++ rest) = (digits, rest) := by
  unfold takeDigits
  rw [List.takeWhile_append_of_pos hdigits, List.dropWhile_append_of_pos hdigits]
  cases rest with
  | nil => rw [List.takeWhile_nil, List.dropWhile_nil, List.append_nil]
  | cons c rest =>
    have hc : ¬ c.isDigit = true := Bool.not_eq_true _ ▸ (hrest c rfl).1
    rw [List.takeWhile_cons_of_neg hc, List.dropWhile_cons_of_neg hc, List.append_nil]

theorem fractionPart_rest {rest : List Char} (h : EndsNumber rest) :
    fractionPart rest = some ([], rest) := by
  unfold fractionPart
  split
  · exact absurd rfl (h '.' rfl).2.1
  · rfl

theorem exponentPart_rest {rest : List Char} (h : EndsNumber rest) :
    exponentPart rest = some ([], rest) := by
  unfold exponentPart
  split
  · rfl
  · next c rest =>
    have hc := (h c rfl).2.2
    rw [if_neg (not_or.mpr hc)]

/-- The decimal digits of a number: there is one at least, and none but zero starts with a zero. -/
theorem toDigits_ten_eq_cons (n : Nat) :
    ∃ d ds, Nat.toDigits 10 n = d :: ds ∧ (d = '0' → n = 0) := by
  induction n using Nat.strongRecOn with
  | ind n ih =>
    by_cases hn : n < 10
    · refine ⟨n.digitChar, [], Nat.toDigits_of_lt_base hn, ?_⟩
      intro h
      exact Nat.digitChar_eq_zero.mp h
    · have hten : 10 ≤ n := Nat.le_of_not_lt hn
      obtain ⟨d, ds, hdigits, hzero⟩ := ih (n / 10) (by omega)
      refine ⟨d, ds ++ [(n % 10).digitChar], ?_, fun h => ?_⟩
      · rw [Nat.toDigits_of_base_le (by decide) hten, hdigits]
        rfl
      · have := hzero h
        omega

theorem isDigit_of_mem_printNat {n : Nat} {c : Char} (h : c ∈ printNat n) : c.isDigit = true :=
  Nat.isDigit_of_mem_toDigits (by decide) (by decide) h

/-- A zero stands alone, any other number goes as far as its digits. -/
theorem integerPart_printNat (n : Nat) {rest : List Char} (hrest : EndsNumber rest) :
    integerPart (printNat n ++ rest) = some (printNat n, rest) := by
  obtain ⟨d, ds, hdigits, hzero⟩ := toDigits_ten_eq_cons n
  have htake : takeDigits (printNat n ++ rest) = (printNat n, rest) :=
    takeDigits_append (fun c => isDigit_of_mem_printNat) hrest
  by_cases hn : n = 0
  · subst hn
    have hnext : ¬ rest.head?.any Char.isDigit = true := by
      cases rest with
      | nil => exact Bool.false_ne_true
      | cons c rest => exact Bool.not_eq_true _ ▸ (hrest c rfl).1
    exact if_neg hnext
  · have hfirst : d ≠ '0' := fun h => hn (hzero h)
    unfold printNat at htake ⊢
    rw [hdigits] at htake ⊢
    unfold integerPart
    split
    · next heq => exact absurd (List.cons.inj heq).1 hfirst
    · unfold someDigits
      rw [htake]

/-- **A written number is read whole**, up to what cannot continue it. -/
theorem number_printNat (n : Nat) {rest : List Char} (hrest : EndsNumber rest) :
    number (printNat n ++ rest) = some (printNat n, rest) := by
  have hunsigned : unsignedNumber (printNat n ++ rest) = some (printNat n, rest) := by
    unfold unsignedNumber
    simp only [integerPart_printNat n hrest, fractionPart_rest hrest, exponentPart_rest hrest,
      Option.bind_eq_bind, Option.bind_some, List.append_nil]
    rfl
  obtain ⟨d, ds, hdigits, -⟩ := toDigits_ten_eq_cons n
  have hd : d.isDigit = true := isDigit_of_mem_printNat (hdigits ▸ List.mem_cons_self)
  unfold number
  split
  · next heq =>
    unfold printNat at heq
    rw [hdigits] at heq
    rw [(List.cons.inj heq).1] at hd
    exact absurd hd Bool.false_ne_true
  · exact hunsigned

/-! ## Strings -/

theorem hexDigit?_digitChar : ∀ d < 16, hexDigit? d.digitChar = some d := by decide

theorem ofUnit_toNat {c : Char} (h : c.toNat < 0x20) : Piece.ofUnit c.toNat = .char c := by
  unfold Piece.ofUnit
  rw [if_neg (by omega), if_neg (by omega), Char.ofNat_toNat]

theorem pieces_escape {cs rest : List Char} {p : Piece} (fuel : Nat)
    (h : escape cs = some (p, rest)) :
    pieces (fuel + 1) ('\\' :: cs) = (pieces fuel rest).map fun (ps, rest) => (p :: ps, rest) := by
  rw [pieces, if_neg (by decide), if_pos rfl, h]
  cases hpieces : pieces fuel rest <;> simp [hpieces]

theorem pieces_raw {c : Char} (cs : List Char) (fuel : Nat) (hquote : c ≠ '"')
    (hslash : c ≠ '\\') (hcontrol : ¬ c.toNat < 0x20) :
    pieces (fuel + 1) (c :: cs) = (pieces fuel cs).map fun (ps, rest) => (.char c :: ps, rest) := by
  rw [pieces, if_neg hquote, if_neg hslash, if_neg hcontrol]
  cases pieces fuel cs <;> rfl

/-- A control character is escaped to the digits of its code. -/
theorem escape_control {c : Char} (cs : List Char) (h : c.toNat < 0x20) :
    escape ('u' :: '0' :: '0' :: Nat.digitChar (c.toNat / 16) ::
      Nat.digitChar (c.toNat % 16) :: cs) = some (.char c, cs) := by
  have hvalue : ((0 * 16 + 0) * 16 + c.toNat / 16) * 16 + c.toNat % 16 = c.toNat := by omega
  have hunit : unit ('0' :: '0' :: Nat.digitChar (c.toNat / 16) ::
      Nat.digitChar (c.toNat % 16) :: cs) = some (c.toNat, cs) := by
    have hzero : hexDigit? '0' = some 0 := by decide
    have hhigh := hexDigit?_digitChar (c.toNat / 16) (by omega)
    have hlow := hexDigit?_digitChar (c.toNat % 16) (by omega)
    simp only [unit, hzero, hhigh, hlow, Option.bind_eq_bind, Option.bind_some, hvalue]
    rfl
  rw [escape, hunit]
  exact congrArg (fun p => some (p, cs)) (ofUnit_toNat h)

/-- What a character was escaped to is read as one piece, that character. -/
theorem pieces_escapeChar (fuel : Nat) (c : Char) (cs : List Char) :
    pieces (fuel + 1) (escapeChar c ++ cs) =
      (pieces fuel cs).map fun (ps, rest) => (.char c :: ps, rest) := by
  unfold escapeChar
  split
  · next h => subst h; exact pieces_escape fuel rfl
  split
  · next h => subst h; exact pieces_escape fuel rfl
  split
  · next h => subst h; exact pieces_escape fuel rfl
  split
  · next h => subst h; exact pieces_escape fuel rfl
  split
  · next h => subst h; exact pieces_escape fuel rfl
  split
  · next h => subst h; exact pieces_escape fuel rfl
  split
  · next h => subst h; exact pieces_escape fuel rfl
  split
  · next h => exact pieces_escape fuel (escape_control cs h)
  · next hquote hslash _ _ _ _ _ hcontrol => exact pieces_raw cs fuel hquote hslash hcontrol

theorem pieces_flatMap_escapeChar (s : List Char) (rest : List Char) {fuel : Nat}
    (hfuel : s.length < fuel) :
    pieces fuel (s.flatMap escapeChar ++ '"' :: rest) = some (s.map .char, rest) := by
  induction s generalizing fuel with
  | nil =>
    obtain ⟨fuel, rfl⟩ := Nat.exists_eq_succ_of_ne_zero (Nat.ne_of_gt hfuel)
    exact if_pos rfl
  | cons c s ih =>
    obtain ⟨fuel, rfl⟩ := Nat.exists_eq_succ_of_ne_zero (Nat.ne_zero_of_lt hfuel)
    rw [List.flatMap_cons, List.append_assoc, pieces_escapeChar, ih (Nat.lt_of_succ_lt_succ hfuel)]
    rfl

theorem joinPieces_map_char (s : List Char) : joinPieces (s.map .char) = some s := by
  induction s with
  | nil => rfl
  | cons c s ih =>
    rw [List.map_cons, joinPieces, ih]
    rfl

theorem length_le_length_flatMap_escapeChar (s : List Char) :
    s.length ≤ (s.flatMap escapeChar).length := by
  have hone (c : Char) : 1 ≤ (escapeChar c).length := by
    unfold escapeChar
    repeat' split
    all_goals exact Nat.succ_le_succ (Nat.zero_le _)
  induction s with
  | nil => exact Nat.zero_le _
  | cons c s ih =>
    rw [List.flatMap_cons, List.length_append, List.length_cons]
    have := hone c
    omega

/-- **A written string is read whole**, whatever characters it has. -/
theorem stringBody_quoteChars (s : String) (rest : List Char) (fuel : Nat)
    (hfuel : (quoteChars s).length ≤ fuel + 1) :
    stringBody fuel (s.toList.flatMap escapeChar ++ '"' :: rest) = some (some s, rest) := by
  have hlength : s.toList.length < fuel := by
    have := length_le_length_flatMap_escapeChar s.toList
    simp only [quoteChars, List.length_append, List.length_cons, List.length_nil] at hfuel
    omega
  unfold stringBody
  rw [pieces_flatMap_escapeChar _ _ hlength, Option.map_some]
  simp only [joinPieces_map_char, Option.map_some, String.ofList_toList]

/-! ## Values -/

/-- This text is written for this value: whatever follows and does not continue a number, the value
is read off the front, with as much fuel as the text is long. The text starts neither with a blank
nor with the bracket that closes an empty array. -/
structure Spells (text : List Char) (v : Value) : Prop where
  head : ∃ c cs, text = c :: cs ∧ isBlank c = false ∧ c ≠ ']'
  read : ∀ fuel rest, text.length ≤ fuel → EndsNumber rest →
    value fuel (text ++ rest) = some (v, rest)

variable {text : List Char} {v : Value}

/-- A written value, and nothing after it, is the value of the whole text. -/
theorem Spells.parse (h : Spells text v) : parse (String.ofList text) = some v := by
  have hread := h.read (2 * text.length + 1) [] (by omega) endsNumber_nil
  rw [List.append_nil] at hread
  unfold JsonText.parse
  rw [String.toList_ofList]
  dsimp only
  rw [hread]
  exact if_pos rfl

theorem skipBlanks_cons {c : Char} {cs : List Char} (h : isBlank c = false) :
    skipBlanks (c :: cs) = c :: cs :=
  List.dropWhile_cons_of_neg (Bool.eq_false_iff.mp h)

theorem spells_string (s : String) : Spells (quoteChars s) (.string (some s)) where
  head := ⟨'"', _, rfl, rfl, by decide⟩
  read := by
    intro fuel rest hfuel _
    obtain ⟨fuel, rfl⟩ := Nat.exists_eq_succ_of_ne_zero
      (Nat.ne_of_gt (Nat.lt_of_lt_of_le (Nat.succ_pos _) hfuel))
    have hbody := stringBody_quoteChars s rest fuel hfuel
    have htext : quoteChars s ++ rest = '"' :: (s.toList.flatMap escapeChar ++ '"' :: rest) := by
      simp [quoteChars]
    rw [htext, value, skipBlanks_cons rfl]
    change (stringBody fuel _).map _ = _
    rw [hbody]
    rfl

theorem spells_number (n : Nat) : Spells (printNat n) (.number (printNat n)) := by
  obtain ⟨d, ds, hdigits, -⟩ := toDigits_ten_eq_cons n
  have hdigit : d.isDigit = true := isDigit_of_mem_printNat (hdigits ▸ List.mem_cons_self)
  have hother {c : Char} (h : c.isDigit = false) : d ≠ c := by
    rintro rfl
    exact absurd hdigit (Bool.eq_false_iff.mp h)
  have hblank : isBlank d = false := by
    have hspace := hother (c := ' ') rfl
    have htab := hother (c := '\t') rfl
    have hline := hother (c := '\n') rfl
    have hreturn := hother (c := '\r') rfl
    simp [isBlank, hspace, htab, hline, hreturn]
  refine ⟨⟨d, ds, hdigits, hblank, hother rfl⟩, ?_⟩
  intro fuel rest hfuel hrest
  have hnumber := number_printNat n hrest
  unfold printNat at hnumber hfuel ⊢
  rw [hdigits] at hnumber hfuel ⊢
  obtain ⟨fuel, rfl⟩ := Nat.exists_eq_succ_of_ne_zero
    (Nat.ne_of_gt (Nat.lt_of_lt_of_le (Nat.succ_pos _) hfuel))
  rw [List.cons_append] at hnumber ⊢
  rw [value, skipBlanks_cons hblank]
  simp only [if_neg (hother (c := '"') rfl), if_neg (hother (c := '[') rfl),
    if_neg (hother (c := '{') rfl), if_neg (hother (c := 'n') rfl), if_neg (hother (c := 't') rfl),
    if_neg (hother (c := 'f') rfl), hnumber, Option.map_some]

/-! ## Lists of values -/

/-- Texts with commas between them. -/
def commas (texts : List (List Char)) : List Char := (texts.intersperse [',']).flatten

@[simp] theorem commas_singleton (text : List Char) : commas [text] = text := List.append_nil text

@[simp] theorem commas_cons_cons (text next : List Char) (texts : List (List Char)) :
    commas (text :: next :: texts) = text ++ ',' :: commas (next :: texts) := by
  unfold commas
  rw [List.intersperse_cons_cons, List.flatten_cons, List.flatten_cons]
  rfl

theorem bracket_eq (opening closing : Char) (texts : List (List Char)) :
    bracket opening closing texts = opening :: (commas texts ++ [closing]) := rfl

theorem items_commas {texts : List (List Char)} {vs : List Value}
    (h : List.Forall₂ Spells texts vs) (hsome : texts ≠ []) (rest : List Char) (fuel : Nat)
    (hfuel : (commas texts).length < fuel) :
    items fuel (commas texts ++ ']' :: rest) = some (vs, rest) := by
  induction h generalizing fuel with
  | nil => exact absurd rfl hsome
  | @cons text v texts vs hv htexts ih =>
    obtain ⟨fuel, rfl⟩ := Nat.exists_eq_succ_of_ne_zero (Nat.ne_zero_of_lt hfuel)
    cases htexts with
    | nil =>
      rw [commas_singleton] at hfuel ⊢
      have hread := hv.read fuel (']' :: rest) (Nat.le_of_lt_succ hfuel)
        (endsNumber_cons (by decide))
      simp only [items, hread, Option.bind_eq_bind, Option.bind_some,
        skipBlanks_cons (show isBlank ']' = false by decide)]
      rfl
    | @cons next w texts vs hw htexts =>
      rw [commas_cons_cons] at hfuel ⊢
      rw [List.length_append, List.length_cons] at hfuel
      have hread := hv.read fuel (',' :: (commas (next :: texts) ++ ']' :: rest)) (by omega)
        (endsNumber_cons (by decide))
      have hitems := ih (List.cons_ne_nil _ _) fuel (by omega)
      rw [List.append_assoc, List.cons_append]
      simp only [items, hread, hitems, Option.bind_eq_bind, Option.bind_some,
        skipBlanks_cons (show isBlank ',' = false by decide)]
      rfl

/-- **The items of an array are read back in their order.** -/
theorem spells_array {texts : List (List Char)} {vs : List Value}
    (h : List.Forall₂ Spells texts vs) : Spells (bracket '[' ']' texts) (.array vs) where
  head := ⟨'[', _, rfl, by decide, by decide⟩
  read := by
    intro fuel rest hfuel _
    rw [bracket_eq] at hfuel ⊢
    rw [List.length_cons, List.length_append, List.length_singleton] at hfuel
    obtain ⟨fuel, rfl⟩ := Nat.exists_eq_succ_of_ne_zero (show fuel ≠ 0 by omega)
    rw [List.cons_append, List.append_assoc, List.singleton_append, value,
      skipBlanks_cons (by decide)]
    cases h with
    | nil => rfl
    | @cons text v texts vs hv htexts =>
      have hitems := items_commas (.cons hv htexts) (List.cons_ne_nil _ _) rest fuel
        (by omega)
      -- the first item starts neither with a blank nor with the closing bracket
      obtain ⟨c, cs, htext, hblank, hclosing⟩ : ∃ c cs,
          commas (text :: texts) ++ ']' :: rest = c :: cs ∧ isBlank c = false ∧ c ≠ ']' := by
        obtain ⟨c, cs, rfl, hblank, hclosing⟩ := hv.head
        cases texts with
        | nil => exact ⟨c, _, rfl, hblank, hclosing⟩
        | cons next texts => exact ⟨c, _, rfl, hblank, hclosing⟩
      rw [htext] at hitems ⊢
      dsimp only
      rw [if_neg (by decide), if_pos rfl, skipBlanks_cons hblank]
      split
      · next heq => exact absurd (List.cons.inj heq).1 hclosing
      · rw [hitems]
        rfl

/-- This text is written for this member of an object. -/
def SpellsMember (text : List Char) (m : Option String × Value) : Prop :=
  ∃ key t v, text = member key t ∧ m = (some key, v) ∧ Spells t v

theorem spellsMember {text : List Char} {v : Value} (key : String) (h : Spells text v) :
    SpellsMember (member key text) (some key, v) := ⟨key, text, v, rfl, rfl, h⟩

/-- What reads a member finds its key, then its value and what follows it. -/
theorem member_reads (key : String) {text : List Char} {v : Value} (h : Spells text v)
    {fuel : Nat} {rest : List Char} (hfuel : (member key text).length ≤ fuel)
    (hrest : EndsNumber rest) :
    ∃ cs, member key text ++ rest = '"' :: cs ∧
      stringBody fuel cs = some (some key, ':' :: (text ++ rest)) ∧
      value fuel (text ++ rest) = some (v, rest) := by
  have hlength : (member key text).length = (quoteChars key).length + (text.length + 1) := by
    rw [member, List.length_append, List.length_cons]
  have htext : member key text ++ rest =
      '"' :: (key.toList.flatMap escapeChar ++ '"' :: ':' :: (text ++ rest)) := by
    simp [member, quoteChars]
  exact ⟨_, htext, stringBody_quoteChars key (':' :: (text ++ rest)) fuel (by omega),
    h.read fuel rest (by omega) hrest⟩

/-- The last member of an object is read up to the closing brace. -/
theorem members_last (key : String) {text : List Char} {v : Value} (h : Spells text v)
    {fuel : Nat} (hfuel : (member key text).length ≤ fuel) (rest : List Char) :
    members (fuel + 1) (member key text ++ '}' :: rest) = some ([(some key, v)], rest) := by
  have hends : EndsNumber ('}' :: rest) := endsNumber_cons (by decide)
  obtain ⟨cs, htext, hkey, hread⟩ := member_reads key h hfuel hends
  rw [htext, members, skipBlanks_cons (by decide)]
  simp only [hkey, hread, Option.bind_eq_bind, Option.bind_some,
    skipBlanks_cons (show isBlank ':' = false by decide),
    skipBlanks_cons (show isBlank '}' = false by decide)]
  rfl

/-- A member before a comma is read with the members after it. -/
theorem members_more (key : String) {text : List Char} {v : Value} (h : Spells text v)
    {fuel : Nat} (hfuel : (member key text).length ≤ fuel) {cs rest : List Char}
    {ms : List (Option String × Value)} (hmembers : members fuel cs = some (ms, rest)) :
    members (fuel + 1) (member key text ++ ',' :: cs) = some ((some key, v) :: ms, rest) := by
  have hends : EndsNumber (',' :: cs) := endsNumber_cons (by decide)
  obtain ⟨_, htext, hkey, hread⟩ := member_reads key h hfuel hends
  rw [htext, members, skipBlanks_cons (by decide)]
  simp only [hkey, hread, hmembers, Option.bind_eq_bind, Option.bind_some,
    skipBlanks_cons (show isBlank ':' = false by decide),
    skipBlanks_cons (show isBlank ',' = false by decide)]
  rfl

theorem members_commas {texts : List (List Char)} {ms : List (Option String × Value)}
    (h : List.Forall₂ SpellsMember texts ms) (hsome : texts ≠ []) (rest : List Char) (fuel : Nat)
    (hfuel : (commas texts).length < fuel) :
    members fuel (commas texts ++ '}' :: rest) = some (ms, rest) := by
  induction h generalizing fuel with
  | nil => exact absurd rfl hsome
  | @cons text m texts ms hm htexts ih =>
    obtain ⟨fuel, rfl⟩ := Nat.exists_eq_succ_of_ne_zero (Nat.ne_zero_of_lt hfuel)
    obtain ⟨key, t, v, rfl, rfl, hv⟩ := hm
    cases htexts with
    | nil =>
      rw [commas_singleton] at hfuel ⊢
      exact members_last key hv (Nat.le_of_lt_succ hfuel) rest
    | @cons next w texts ms hw htexts =>
      rw [commas_cons_cons] at hfuel ⊢
      rw [List.length_append, List.length_cons] at hfuel
      have hmembers := ih (List.cons_ne_nil _ _) fuel (by omega)
      rw [List.append_assoc, List.cons_append]
      exact members_more key hv (by omega) hmembers

/-- **The members of an object are read back in their order.** -/
theorem spells_object {texts : List (List Char)} {ms : List (Option String × Value)}
    (h : List.Forall₂ SpellsMember texts ms) :
    Spells (bracket '{' '}' texts) (.object ms) where
  head := ⟨'{', _, rfl, by decide, by decide⟩
  read := by
    intro fuel rest hfuel _
    rw [bracket_eq] at hfuel ⊢
    rw [List.length_cons, List.length_append, List.length_singleton] at hfuel
    obtain ⟨fuel, rfl⟩ := Nat.exists_eq_succ_of_ne_zero (show fuel ≠ 0 by omega)
    rw [List.cons_append, List.append_assoc, List.singleton_append, value,
      skipBlanks_cons (by decide)]
    cases h with
    | nil => rfl
    | @cons text m texts ms hm htexts =>
      have hmembers := members_commas (.cons hm htexts) (List.cons_ne_nil _ _) rest fuel
        (by omega)
      obtain ⟨cs, htext⟩ : ∃ cs, commas (text :: texts) ++ '}' :: rest = '"' :: cs := by
        obtain ⟨key, t, v, rfl, -, -⟩ := hm
        cases texts with
        | nil => exact ⟨_, rfl⟩
        | cons next texts => exact ⟨_, rfl⟩
      rw [htext] at hmembers ⊢
      dsimp only
      rw [if_neg (by decide), if_neg (by decide), if_pos rfl]
      rw [skipBlanks_cons (by decide)]
      change (members fuel ('"' :: cs)).map _ = _
      rw [hmembers]
      rfl

end DeviceCode.JsonText
