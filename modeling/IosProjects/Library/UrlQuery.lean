import Mathlib.Data.List.Basic
import Mathlib.Data.Nat.Digits.Defs

/-!
# UrlQuery — the query of an address and percent-encoding

An address is cut at its first `#` and, before that, at its first `?`; the query is what lies
between them. Its parameters are separated by `&`, and in each the first `=` ends the name.

`percentDecode` puts the byte for every `%` with two hexadecimal digits and reads the bytes as
UTF-8. What becomes of another `%` depends on the reader: a strict one rejects the text, any other
keeps the character. `escape` writes some characters as triples. When it does not write `%` as one,
a text comes back exactly if it holds nothing that looks like a triple; `percentDecode_escape_iff`
is that.
-/

namespace IosProjects
namespace Library

/-! ## Cutting an address -/

/-- What stands before the first `separator`, and what stands after it if there is one. -/
def splitFirst (separator : Char) : List Char → List Char × Option (List Char)
  | [] => ([], none)
  | c :: cs =>
      if c = separator then ([], some cs)
      else (c :: (splitFirst separator cs).1, (splitFirst separator cs).2)

theorem splitFirst_of_notMem {separator : Char} {cs : List Char} (h : separator ∉ cs) :
    splitFirst separator cs = (cs, none) := by
  induction cs with
  | nil => rfl
  | cons c cs ih =>
      have hc : c ≠ separator := fun heq => h (heq ▸ List.mem_cons_self)
      have htail := ih fun hmem => h (List.mem_cons_of_mem c hmem)
      simp [splitFirst, hc, htail]

theorem splitFirst_append {separator : Char} {front : List Char} (h : separator ∉ front)
    (rest : List Char) :
    splitFirst separator (front ++ separator :: rest) = (front, some rest) := by
  induction front with
  | nil => simp [splitFirst]
  | cons c front ih =>
      have hc : c ≠ separator := fun heq => h (heq ▸ List.mem_cons_self)
      have htail := ih fun hmem => h (List.mem_cons_of_mem c hmem)
      simp [splitFirst, hc, htail]

/-- Nothing comes after the separator exactly when it does not occur. -/
theorem splitFirst_snd_eq_none_iff {separator : Char} {cs : List Char} :
    (splitFirst separator cs).2 = none ↔ separator ∉ cs := by
  induction cs with
  | nil => simp [splitFirst]
  | cons c cs ih =>
      by_cases hc : c = separator
      · simp [splitFirst, hc]
      · simp [splitFirst, hc, ih, Ne.symm hc]

def fragment (address : List Char) : Option (List Char) :=
  (splitFirst '#' address).2

def query (address : List Char) : Option (List Char) :=
  (splitFirst '?' (splitFirst '#' address).1).2

/-- The parameters of a query; a parameter without `=` has no value. -/
def parameters (query : List Char) : List (List Char × Option (List Char)) :=
  (query.splitOn '&').map (splitFirst '=')

/-- A text is cut into one part exactly when the separator is not in it. -/
theorem length_splitOn_eq_one_iff {separator : Char} {cs : List Char} :
    (cs.splitOn separator).length = 1 ↔ separator ∉ cs := by
  constructor
  · intro hlength hmem
    rcases List.append_of_mem hmem with ⟨front, rest, rfl⟩
    rw [List.splitOn_append_cons_self, List.length_append] at hlength
    have hfront := List.length_pos_of_ne_nil (List.splitOn_ne_nil separator front)
    have hrest := List.length_pos_of_ne_nil (List.splitOn_ne_nil separator rest)
    omega
  · intro hnone
    rw [List.splitOn_eq_singleton hnone, List.length_singleton]

/-- A query without `&` is one parameter. -/
theorem parameters_of_notMem {q : List Char} (h : '&' ∉ q) :
    parameters q = [splitFirst '=' q] := by
  rw [parameters, List.splitOn_eq_singleton h, List.map_singleton]

/-- Each `&` ends a parameter. -/
theorem parameters_append (q rest : List Char) :
    parameters (q ++ '&' :: rest) = parameters q ++ parameters rest := by
  rw [parameters, List.splitOn_append_cons_self, List.map_append]
  rfl

theorem length_parameters_eq_one_iff {q : List Char} : (parameters q).length = 1 ↔ '&' ∉ q := by
  rw [parameters, List.length_map]
  exact length_splitOn_eq_one_iff

/-! ## Percent-encoding -/

/-- The value of a hexadecimal digit. -/
def hexValue (c : Char) : Option ℕ :=
  if 48 ≤ c.toNat ∧ c.toNat ≤ 57 then some (c.toNat - 48)
  else if 65 ≤ c.toNat ∧ c.toNat ≤ 70 then some (c.toNat - 55)
  else if 97 ≤ c.toNat ∧ c.toNat ≤ 102 then some (c.toNat - 87)
  else none

def IsHex (c : Char) : Prop :=
  (hexValue c).isSome

instance (c : Char) : Decidable (IsHex c) :=
  inferInstanceAs (Decidable (_ = true))

theorem not_isHex_percent : ¬ IsHex '%' := by
  decide

/-- The UTF-8 bytes of a text. -/
def utf8 (cs : List Char) : List UInt8 :=
  cs.flatMap String.utf8EncodeChar

@[simp] theorem utf8_cons (c : Char) (cs : List Char) :
    utf8 (c :: cs) = String.utf8EncodeChar c ++ utf8 cs := rfl

/-- The bytes that a percent-encoded text stands for. -/
def percentBytes (strict : Bool) : List Char → Option (List UInt8)
  | [] => some []
  | c :: a :: b :: rest =>
      if c = '%' then
        match hexValue a, hexValue b with
        | some high, some low =>
            (percentBytes strict rest).map (UInt8.ofNat (16 * high + low) :: ·)
        | _, _ =>
            if strict then none
            else (percentBytes strict (a :: b :: rest)).map (String.utf8EncodeChar c ++ ·)
      else (percentBytes strict (a :: b :: rest)).map (String.utf8EncodeChar c ++ ·)
  | c :: rest =>
      if c = '%' ∧ strict then none
      else (percentBytes strict rest).map (String.utf8EncodeChar c ++ ·)

/-- The text whose UTF-8 the bytes are, if they are any. -/
def percentDecode (strict : Bool) (cs : List Char) : Option (List Char) :=
  (percentBytes strict cs).bind fun bytes => bytes.toByteArray.utf8Decode?.map Array.toList

theorem percentDecode_eq_some_iff {strict : Bool} {cs text : List Char} :
    percentDecode strict cs = some text ↔ percentBytes strict cs = some (utf8 text) := by
  have hencode : text.utf8Encode = (utf8 text).toByteArray := rfl
  constructor
  · intro h
    rcases Option.bind_eq_some_iff.1 h with ⟨bytes, hbytes, hdecode⟩
    rcases Option.map_eq_some_iff.1 hdecode with ⟨decoded, hdecoded, rfl⟩
    have hget := ByteArray.utf8Encode_get_utf8Decode? (b := bytes.toByteArray)
      (h := by rw [hdecoded]; rfl)
    simp only [hdecoded, Option.get_some] at hget
    rw [hencode, List.toByteArray_inj] at hget
    rw [hbytes, hget]
  · intro h
    simp [percentDecode, h, ← hencode]

/-! ## Triples -/

/-- What follows a `%` makes a triple of it. -/
def BeginsTriple (cs : List Char) : Prop :=
  ∃ a b rest, cs = a :: b :: rest ∧ IsHex a ∧ IsHex b

/-- Somewhere in the text a `%` is followed by two hexadecimal digits. -/
def HasTriple : List Char → Prop
  | [] => False
  | c :: cs => c = '%' ∧ BeginsTriple cs ∨ HasTriple cs

/-- A text is taken apart into triples, other occurrences of `%`, and the rest. -/
theorem triple_induction {motive : List Char → Prop} (nil : motive [])
    (plain : ∀ c cs, c ≠ '%' → motive cs → motive (c :: cs))
    (triple : ∀ a b rest, IsHex a → IsHex b → motive rest → motive ('%' :: a :: b :: rest))
    (loose : ∀ cs, ¬ BeginsTriple cs → motive cs → motive ('%' :: cs)) (cs : List Char) :
    motive cs := by
  induction hlength : cs.length using Nat.strong_induction_on generalizing cs with
  | _ n ih =>
      subst hlength
      cases cs with
      | nil => exact nil
      | cons c cs =>
          have htail : motive cs := ih cs.length (by simp) cs rfl
          by_cases hc : c = '%'
          · subst hc
            by_cases hbegins : BeginsTriple cs
            · obtain ⟨a, b, rest, rfl, ha, hb⟩ := hbegins
              exact triple a b rest ha hb (ih rest.length (by simp; omega) rest rfl)
            · exact loose cs hbegins htail
          · exact plain c cs hc htail

/-- A map that respects `%` and the hexadecimal digits neither makes nor breaks a triple. -/
theorem hasTriple_map_iff {f : Char → Char} (hpercent : ∀ c, f c = '%' ↔ c = '%')
    (hhex : ∀ c, IsHex (f c) ↔ IsHex c) {cs : List Char} :
    HasTriple (cs.map f) ↔ HasTriple cs := by
  have hbegins : ∀ cs : List Char, BeginsTriple (cs.map f) ↔ BeginsTriple cs := by
    intro cs
    rcases cs with _ | ⟨a, _ | ⟨b, rest⟩⟩
    · simp [BeginsTriple]
    · simp [BeginsTriple]
    · simp [BeginsTriple, hhex]
  induction cs with
  | nil => rfl
  | cons c cs ih => exact or_congr (and_congr (hpercent c) (hbegins cs)) ih

section PercentBytes

variable {strict : Bool}

theorem percentBytes_plain {c : Char} (h : c ≠ '%') (cs : List Char) :
    percentBytes strict (c :: cs) =
      (percentBytes strict cs).map (String.utf8EncodeChar c ++ ·) := by
  rcases cs with _ | ⟨a, _ | ⟨b, rest⟩⟩ <;> simp [percentBytes, h]

theorem percentBytes_triple {a b : Char} {high low : ℕ} (ha : hexValue a = some high)
    (hb : hexValue b = some low) (rest : List Char) :
    percentBytes strict ('%' :: a :: b :: rest) =
      (percentBytes strict rest).map (UInt8.ofNat (16 * high + low) :: ·) := by
  simp [percentBytes, ha, hb]

theorem percentBytes_loose {cs : List Char} (h : ¬ BeginsTriple cs) :
    percentBytes strict ('%' :: cs) =
      if strict then none
      else (percentBytes strict cs).map (String.utf8EncodeChar '%' ++ ·) := by
  rcases cs with _ | ⟨a, _ | ⟨b, rest⟩⟩
  · simp [percentBytes]
  · simp [percentBytes]
  · cases ha : hexValue a with
    | none => simp [percentBytes, ha]
    | some high =>
        cases hb : hexValue b with
        | none => simp [percentBytes, ha, hb]
        | some low =>
            exact absurd ⟨a, b, rest, rfl, by simp [IsHex, ha], by simp [IsHex, hb]⟩ h

end PercentBytes

/-! ## Escaping -/

/-- The triple that is written for a character of ASCII. -/
def triple (c : Char) : List Char :=
  ['%', Nat.digitChar (c.toNat / 16), Nat.digitChar (c.toNat % 16)]

/-- The characters of a set are written as triples. -/
def escape (set : Char → Bool) (cs : List Char) : List Char :=
  cs.flatMap fun c => if set c then triple c else [c]

/-- A set of characters of ASCII without `%` and the hexadecimal digits. -/
structure Escapable (set : Char → Bool) : Prop where
  ascii : ∀ c, set c = true → c.toNat < 128
  percent : set '%' = false
  hex : ∀ c, IsHex c → set c = false

theorem hexValue_digitChar : ∀ d < 16, hexValue (Nat.digitChar d) = some d := by
  decide

section Escape

variable {set : Char → Bool} {strict : Bool}

@[simp] theorem escape_cons (c : Char) (cs : List Char) :
    escape set (c :: cs) = (if set c then triple c else [c]) ++ escape set cs := rfl

theorem escape_of_isHex (h : Escapable set) {c : Char} (hc : IsHex c) (cs : List Char) :
    escape set (c :: cs) = c :: escape set cs := by
  rw [escape_cons, h.hex c hc]
  rfl

/-- A hexadecimal digit stands in front after escaping exactly if it did before. -/
theorem escape_eq_hex_iff (h : Escapable set) {c : Char} (hc : IsHex c) {cs rest' : List Char} :
    escape set cs = c :: rest' ↔ ∃ rest, cs = c :: rest ∧ rest' = escape set rest := by
  cases cs with
  | nil => simp [escape]
  | cons d cs =>
      cases hset : set d with
      | true =>
          -- the triple begins with the character that is no such digit
          rw [escape_cons, hset]
          constructor
          · intro heq
            obtain rfl : '%' = c := (List.cons.inj heq).1
            exact absurd hc not_isHex_percent
          · rintro ⟨rest, heq, _⟩
            obtain rfl : d = c := (List.cons.inj heq).1
            exact absurd (h.hex d hc) (by simp [hset])
      | false =>
          rw [escape_cons, hset]
          simp [eq_comm]

/-- Escaping neither makes nor breaks a triple. -/
theorem beginsTriple_escape_iff (h : Escapable set) {cs : List Char} :
    BeginsTriple (escape set cs) ↔ BeginsTriple cs := by
  constructor
  · rintro ⟨a, b, rest, heq, ha, hb⟩
    rcases (escape_eq_hex_iff h ha).1 heq with ⟨after, rfl, hafter⟩
    rcases (escape_eq_hex_iff h hb).1 hafter.symm with ⟨after', rfl, _⟩
    exact ⟨a, b, after', rfl, ha, hb⟩
  · rintro ⟨a, b, rest, rfl, ha, hb⟩
    refine ⟨a, b, escape set rest, ?_, ha, hb⟩
    rw [escape_of_isHex h ha, escape_of_isHex h hb]

theorem percentBytes_escape_plain (h : Escapable set) {c : Char} (hc : c ≠ '%') (cs : List Char) :
    percentBytes strict (escape set (c :: cs)) =
      (percentBytes strict (escape set cs)).map (String.utf8EncodeChar c ++ ·) := by
  rw [escape_cons]
  split
  · rename_i hset
    have hascii : c.toNat < 128 := h.ascii c hset
    have hhigh := hexValue_digitChar (c.toNat / 16) (by omega)
    have hlow := hexValue_digitChar (c.toNat % 16) (by omega)
    have hbyte : String.utf8EncodeChar c = [UInt8.ofNat (16 * (c.toNat / 16) + c.toNat % 16)] := by
      rw [Nat.div_add_mod]
      have hle : c.toNat ≤ 127 := Nat.le_of_lt_succ hascii
      simp [String.utf8EncodeChar, hle]
    rw [triple, List.cons_append, List.cons_append, List.cons_append, List.nil_append,
      percentBytes_triple hhigh hlow, hbyte]
    rfl
  · exact percentBytes_plain hc _

theorem escape_percent (h : Escapable set) (cs : List Char) :
    escape set ('%' :: cs) = '%' :: escape set cs := by
  rw [escape_cons, h.percent]
  rfl

theorem isHex_digitChar {d : ℕ} (h : d < 16) : IsHex (Nat.digitChar d) := by
  rw [IsHex, hexValue_digitChar d h]
  rfl

/-- A character that triples are not made of occurs after escaping exactly if it did before. -/
theorem mem_escape_iff (h : Escapable set) {c : Char} (hset : set c = false) (hpercent : c ≠ '%')
    (hhex : ¬ IsHex c) {cs : List Char} : c ∈ escape set cs ↔ c ∈ cs := by
  induction cs with
  | nil => rfl
  | cons d cs ih =>
      rw [escape_cons, List.mem_append, List.mem_cons, ih]
      refine or_congr_left ?_
      split
      · rename_i hd
        have hascii : d.toNat < 128 := h.ascii d hd
        refine iff_of_false ?_ ?_
        · intro hmem
          have hcases : c = '%' ∨ c = Nat.digitChar (d.toNat / 16) ∨
              c = Nat.digitChar (d.toNat % 16) := by simpa [triple] using hmem
          rcases hcases with heq | heq | heq
          · exact hpercent heq
          · exact hhex (heq ▸ isHex_digitChar (by omega))
          · exact hhex (heq ▸ isHex_digitChar (by omega))
        · rintro rfl
          simp [hset] at hd
      · exact List.mem_singleton

/-- A text that holds no triple comes back, from a strict reader only if it holds no `%` at all. -/
theorem percentBytes_escape (h : Escapable set) {cs : List Char} (htriple : ¬ HasTriple cs)
    (hstrict : strict = true → '%' ∉ cs) :
    percentBytes strict (escape set cs) = some (utf8 cs) := by
  induction cs using triple_induction with
  | nil => rfl
  | plain c cs hc ih =>
      have hcs := ih (fun hmore => htriple (Or.inr hmore))
        fun hs hmem => hstrict hs (List.mem_cons_of_mem c hmem)
      rw [percentBytes_escape_plain h hc, hcs]
      rfl
  | triple a b rest ha hb _ => exact absurd (Or.inl ⟨rfl, a, b, rest, rfl, ha, hb⟩) htriple
  | loose cs hloose ih =>
      have hlenient : ¬ strict = true := fun hs => hstrict hs List.mem_cons_self
      have hcs := ih (fun hmore => htriple (Or.inr hmore)) fun hs => absurd hs hlenient
      rw [escape_percent h, percentBytes_loose ((beginsTriple_escape_iff h).not.2 hloose), hcs,
        if_neg hlenient]
      rfl

/-- What is read back is no longer than the text, and shorter where it held a triple. -/
theorem length_percentBytes_escape (h : Escapable set) {cs : List Char} {bytes : List UInt8}
    (hbytes : percentBytes strict (escape set cs) = some bytes) :
    bytes.length ≤ (utf8 cs).length ∧ (HasTriple cs → bytes.length < (utf8 cs).length) := by
  induction cs using triple_induction generalizing bytes with
  | nil =>
      cases hbytes
      exact ⟨Nat.le_refl _, False.elim⟩
  | plain c cs hc ih =>
      rw [percentBytes_escape_plain h hc] at hbytes
      rcases Option.map_eq_some_iff.1 hbytes with ⟨rest, hrest, rfl⟩
      obtain ⟨hle, hlt⟩ := ih hrest
      rw [utf8_cons, List.length_append, List.length_append]
      refine ⟨Nat.add_le_add_left hle _, ?_⟩
      rintro (⟨hpercent, _⟩ | hmore)
      · exact absurd hpercent hc
      · exact Nat.add_lt_add_left (hlt hmore) _
  | triple a b rest ha hb ih =>
      obtain ⟨high, hhigh⟩ := Option.isSome_iff_exists.1 ha
      obtain ⟨low, hlow⟩ := Option.isSome_iff_exists.1 hb
      rw [escape_percent h, escape_of_isHex h ha, escape_of_isHex h hb,
        percentBytes_triple hhigh hlow] at hbytes
      rcases Option.map_eq_some_iff.1 hbytes with ⟨after, hafter, rfl⟩
      have hle := (ih hafter).1
      -- one byte stands for the three of the triple
      have hshorter : (UInt8.ofNat (16 * high + low) :: after).length <
          (utf8 ('%' :: a :: b :: rest)).length := by
        simp only [utf8_cons, List.length_append, List.length_cons, String.length_utf8EncodeChar]
        have := a.utf8Size_pos
        have := b.utf8Size_pos
        have := Char.utf8Size_pos '%'
        omega
      exact ⟨hshorter.le, fun _ => hshorter⟩
  | loose cs hloose ih =>
      rw [escape_percent h, percentBytes_loose ((beginsTriple_escape_iff h).not.2 hloose)] at hbytes
      split at hbytes
      · cases hbytes
      · rcases Option.map_eq_some_iff.1 hbytes with ⟨rest, hrest, rfl⟩
        obtain ⟨hle, hlt⟩ := ih hrest
        rw [utf8_cons, List.length_append, List.length_append]
        refine ⟨Nat.add_le_add_left hle _, ?_⟩
        rintro (⟨_, hbegins⟩ | hmore)
        · exact absurd hbegins hloose
        · exact Nat.add_lt_add_left (hlt hmore) _

/-- A strict reader accepts a `%` only in triples. -/
theorem hasTriple_of_strict (h : Escapable set) {cs : List Char} {bytes : List UInt8}
    (hbytes : percentBytes true (escape set cs) = some bytes) (hmem : '%' ∈ cs) : HasTriple cs := by
  induction cs using triple_induction generalizing bytes with
  | nil => simp at hmem
  | plain c cs hc ih =>
      rw [percentBytes_escape_plain h hc] at hbytes
      rcases Option.map_eq_some_iff.1 hbytes with ⟨rest, hrest, _⟩
      exact Or.inr (ih hrest ((List.mem_cons.1 hmem).resolve_left (Ne.symm hc)))
  | triple a b rest ha hb _ => exact Or.inl ⟨rfl, a, b, rest, rfl, ha, hb⟩
  | loose cs hloose _ =>
      rw [escape_percent h, percentBytes_loose ((beginsTriple_escape_iff h).not.2 hloose)] at hbytes
      simp at hbytes

/-- An escaped text is read back exactly when it holds no triple, and no `%` at all where the reader
is strict. -/
theorem percentDecode_escape_iff (h : Escapable set) {cs : List Char} :
    percentDecode strict (escape set cs) = some cs ↔
      ¬ HasTriple cs ∧ (strict = true → '%' ∉ cs) := by
  rw [percentDecode_eq_some_iff]
  constructor
  · intro hbytes
    have htriple : ¬ HasTriple cs := fun hmore =>
      absurd ((length_percentBytes_escape h hbytes).2 hmore) (Nat.lt_irrefl _)
    refine ⟨htriple, ?_⟩
    rintro rfl hmem
    exact htriple (hasTriple_of_strict h hbytes hmem)
  · rintro ⟨htriple, hstrict⟩
    exact percentBytes_escape h htriple hstrict

/-- A text is decoded to itself exactly when it holds no triple, and no `%` at all where the reader
is strict. -/
theorem percentDecode_eq_self_iff {cs : List Char} :
    percentDecode strict cs = some cs ↔ ¬ HasTriple cs ∧ (strict = true → '%' ∉ cs) := by
  have hnone : Escapable fun _ => false := ⟨by simp, rfl, fun _ _ => rfl⟩
  have hsame : escape (fun _ => false) cs = cs := by simp [escape]
  have hiff := @percentDecode_escape_iff _ strict hnone cs
  rwa [hsame] at hiff

end Escape

end Library
end IosProjects
