import Mathlib.Tactic

/-!
# Base 64

The encoding of bytes by their bits: groups of six bits are digits of an alphabet, the last group
is filled with zeros, and the digits are padded to a multiple of four.  The decoder takes nothing
but such texts.  The module names nothing of a particular program.
-/

namespace Base64

/-! ## Bits -/

def bits : (width value : Nat) → List Bool
  | 0, _ => []
  | width + 1, value => bits width (value / 2) ++ [decide (value % 2 = 1)]

def valueOf (bits : List Bool) : Nat :=
  bits.foldl (fun value bit => 2 * value + bit.toNat) 0

@[simp] theorem length_bits (width value : Nat) : (bits width value).length = width := by
  induction width generalizing value with
  | zero => rfl
  | succ width ih => simp [bits, ih]

theorem bits_add (high low value : Nat) :
    bits (high + low) value = bits high (value / 2 ^ low) ++ bits low value := by
  induction low generalizing value with
  | zero => simp [bits]
  | succ low ih =>
      rw [← Nat.add_assoc, bits, ih, bits, Nat.div_div_eq_div_mul, Nat.pow_succ',
        List.append_assoc]

theorem bits_mod (width value : Nat) : bits width (value % 2 ^ width) = bits width value := by
  induction width generalizing value with
  | zero => rfl
  | succ width ih =>
      have hhalf : value % 2 ^ (width + 1) / 2 = value / 2 % 2 ^ width := by
        rw [Nat.pow_succ', Nat.mod_mul_right_div_self]
      have hlast : value % 2 ^ (width + 1) % 2 = value % 2 :=
        Nat.mod_mod_of_dvd value (dvd_pow_self 2 (Nat.succ_ne_zero width))
      rw [bits, bits, hhalf, ih, hlast]

theorem bits_zero (width : Nat) : bits width 0 = List.replicate width false := by
  induction width with
  | zero => rfl
  | succ width ih =>
      rw [bits, Nat.zero_div, ih, List.replicate_succ']
      rfl

theorem bits_append {low : Nat} {lowWidth : Nat} (hlow : low < 2 ^ lowWidth)
    (highWidth high : Nat) :
    bits highWidth high ++ bits lowWidth low =
      bits (highWidth + lowWidth) (high * 2 ^ lowWidth + low) := by
  have hhigh : (high * 2 ^ lowWidth + low) / 2 ^ lowWidth = high := by
    rw [Nat.add_comm, Nat.add_mul_div_right _ _ (by positivity), Nat.div_eq_of_lt hlow,
      Nat.zero_add]
  have hrest : (high * 2 ^ lowWidth + low) % 2 ^ lowWidth = low := by
    rw [Nat.add_comm, Nat.add_mul_mod_self_right, Nat.mod_eq_of_lt hlow]
  rw [bits_add, hhigh, ← bits_mod lowWidth (high * 2 ^ lowWidth + low), hrest]

theorem valueOf_append_singleton (bits : List Bool) (bit : Bool) :
    valueOf (bits ++ [bit]) = 2 * valueOf bits + bit.toNat := by
  rw [valueOf, List.foldl_append]
  rfl

theorem valueOf_bits (width value : Nat) : valueOf (bits width value) = value % 2 ^ width := by
  induction width generalizing value with
  | zero => simp [bits, valueOf, Nat.mod_one]
  | succ width ih =>
      have hbit : (decide (value % 2 = 1)).toNat = value % 2 := by
        rcases Nat.mod_two_eq_zero_or_one value with hzero | hone
        · rw [hzero]
          rfl
        · rw [hone]
          rfl
      rw [bits, valueOf_append_singleton, ih, hbit, Nat.pow_succ', Nat.mod_mul, Nat.add_comm]

theorem bits_valueOf (list : List Bool) : bits list.length (valueOf list) = list := by
  induction list using List.reverseRecOn with
  | nil => rfl
  | append_singleton front bit ih =>
      have hhalf : (2 * valueOf front + bit.toNat) / 2 = valueOf front := by
        have hbit := Bool.toNat_lt bit
        omega
      have hlast : decide ((2 * valueOf front + bit.toNat) % 2 = 1) = bit := by
        cases bit <;> simp
      rw [List.length_append, List.length_singleton, bits, valueOf_append_singleton, hhalf, ih,
        hlast]

theorem valueOf_lt (list : List Bool) : valueOf list < 2 ^ list.length := by
  rw [← bits_valueOf list, length_bits, valueOf_bits]
  exact Nat.mod_lt _ (by positivity)

/-! ## Groups -/

def groups {α : Type*} (size : Nat) : (count : Nat) → List α → List (List α)
  | 0, _ => []
  | count + 1, list => list.take size :: groups size count (list.drop size)

section Groups

variable {α : Type*} {size count : Nat} {list : List α}

theorem groups_append {first : List α} (hfirst : first.length = size) (rest : List α) :
    groups size (count + 1) (first ++ rest) = first :: groups size count rest := by
  rw [groups, List.take_left' hfirst, List.drop_left' hfirst]

theorem flatten_groups (hlength : list.length = count * size) :
    (groups size count list).flatten = list := by
  induction count generalizing list with
  | zero =>
      rw [Nat.zero_mul] at hlength
      rw [List.eq_nil_of_length_eq_zero hlength]
      rfl
  | succ count ih =>
      have hrest : (list.drop size).length = count * size := by
        rw [List.length_drop, hlength, Nat.succ_mul, Nat.add_sub_cancel]
      rw [groups, List.flatten_cons, ih hrest, List.take_append_drop]

theorem length_of_mem_groups (hlength : list.length = count * size) {group : List α}
    (hgroup : group ∈ groups size count list) : group.length = size := by
  induction count generalizing list with
  | zero => cases hgroup
  | succ count ih =>
      have hrest : (list.drop size).length = count * size := by
        rw [List.length_drop, hlength, Nat.succ_mul, Nat.add_sub_cancel]
      rcases List.mem_cons.mp hgroup with rfl | hlater
      · rw [List.length_take, hlength, Nat.succ_mul]
        exact min_eq_left (Nat.le_add_left _ _)
      · exact ih hrest hlater

theorem groups_flatMap {β : Type*} {part : β → List α} (hpart : ∀ item, (part item).length = size)
    (items : List β) (rest : List α) :
    groups size items.length (items.flatMap part ++ rest) = items.map part := by
  induction items with
  | nil => rfl
  | cons item items ih =>
      rw [List.flatMap_cons, List.append_assoc, List.length_cons,
        groups_append (hpart item), ih, List.map_cons]

end Groups

/-! ## The encoding -/

def alphabet : List Char :=
  "ABCDEFGHIJKLMNOPQRSTUVWXYZabcdefghijklmnopqrstuvwxyz0123456789+/".toList

def digit (value : Nat) : Char :=
  alphabet.getD value '='

def digit? (c : Char) : Option Nat :=
  alphabet.idxOf? c

def missing (size length : Nat) : Nat :=
  (size - length % size) % size

def filledBits (bytes : List UInt8) : List Bool :=
  let all := bytes.flatMap fun byte => bits 8 byte.toNat
  all ++ List.replicate (missing 6 all.length) false

def sextets (list : List Bool) : List Nat :=
  (groups 6 (list.length / 6) list).map valueOf

def octets (list : List Bool) : List UInt8 :=
  (groups 8 (list.length / 8) list).map fun group => UInt8.ofNat (valueOf group)

def padding (digits : Nat) : List Char :=
  List.replicate (missing 4 digits) '='

def encode (bytes : List UInt8) : List Char :=
  let digits := (sextets (filledBits bytes)).map digit
  digits ++ padding digits.length

/-! ## The encoding by three bytes -/

theorem sextets_bits_append (value : Nat) (list : List Bool) :
    sextets (bits 6 value ++ list) = value % 64 :: sextets list := by
  have hcount : (bits 6 value ++ list).length / 6 = list.length / 6 + 1 := by
    rw [List.length_append, length_bits]
    omega
  rw [sextets, hcount, groups_append (length_bits 6 value), List.map_cons, valueOf_bits]
  rfl

theorem sextets_bits (value : Nat) : sextets (bits 6 value) = [value % 64] := by
  have hone := sextets_bits_append value []
  rwa [List.append_nil] at hone

theorem sextets_bits_four (value : Nat) (list : List Bool) :
    sextets (bits 24 value ++ list) =
      value / 2 ^ 18 % 64 :: value / 2 ^ 12 % 64 :: value / 2 ^ 6 % 64 :: value % 64 ::
        sextets list := by
  have hsplit : bits 24 value =
      bits 6 (value / 2 ^ 18) ++ (bits 6 (value / 2 ^ 12) ++
        (bits 6 (value / 2 ^ 6) ++ bits 6 value)) := by
    rw [show 24 = 6 + (6 + (6 + 6)) from rfl, bits_add, bits_add, bits_add]
  rw [hsplit]
  simp only [List.append_assoc, sextets_bits_append]

theorem encode_three (b1 b2 b3 : UInt8) (rest : List UInt8) :
    encode (b1 :: b2 :: b3 :: rest) =
      [digit ((b1.toNat * 2 ^ 16 + b2.toNat * 2 ^ 8 + b3.toNat) / 2 ^ 18 % 64),
        digit ((b1.toNat * 2 ^ 16 + b2.toNat * 2 ^ 8 + b3.toNat) / 2 ^ 12 % 64),
        digit ((b1.toNat * 2 ^ 16 + b2.toNat * 2 ^ 8 + b3.toNat) / 2 ^ 6 % 64),
        digit ((b1.toNat * 2 ^ 16 + b2.toNat * 2 ^ 8 + b3.toNat) % 64)] ++ encode rest := by
  have hbits : bits 8 b1.toNat ++ (bits 8 b2.toNat ++ bits 8 b3.toNat) =
      bits 24 (b1.toNat * 2 ^ 16 + b2.toNat * 2 ^ 8 + b3.toNat) := by
    have hlow : b2.toNat * 2 ^ 8 + b3.toNat < 2 ^ 16 := by
      have hsecond := b2.toNat_lt
      have hthird := b3.toNat_lt
      omega
    rw [bits_append b3.toNat_lt, bits_append hlow, Nat.add_assoc]
  have hfilled : filledBits (b1 :: b2 :: b3 :: rest) =
      bits 24 (b1.toNat * 2 ^ 16 + b2.toNat * 2 ^ 8 + b3.toNat) ++ filledBits rest := by
    have hmissing (length : Nat) : missing 6 (24 + length) = missing 6 length := by
      rw [missing, missing]
      omega
    have hall : ((b1 :: b2 :: b3 :: rest).flatMap fun byte => bits 8 byte.toNat) =
        bits 24 (b1.toNat * 2 ^ 16 + b2.toNat * 2 ^ 8 + b3.toNat) ++
          rest.flatMap fun byte => bits 8 byte.toNat := by
      rw [← hbits]
      simp only [List.flatMap_cons, List.append_assoc]
    rw [filledBits, hall, List.length_append, length_bits, hmissing, List.append_assoc, filledBits]
  have hpadding (digits : Nat) : padding (digits + 1 + 1 + 1 + 1) = padding digits := by
    rw [padding, padding, missing, missing]
    congr 1
    omega
  rw [encode, hfilled, sextets_bits_four]
  simp only [List.map_cons, List.length_cons, hpadding]
  rfl

theorem encode_two (b1 b2 : UInt8) :
    encode [b1, b2] =
      [digit ((b1.toNat * 2 ^ 16 + b2.toNat * 2 ^ 8) / 2 ^ 18 % 64),
        digit ((b1.toNat * 2 ^ 16 + b2.toNat * 2 ^ 8) / 2 ^ 12 % 64),
        digit ((b1.toNat * 2 ^ 16 + b2.toNat * 2 ^ 8) / 2 ^ 6 % 64), '='] := by
  have hlow : b2.toNat * 2 ^ 2 + 0 < 2 ^ (8 + 2) := by
    have hsecond := b2.toNat_lt
    omega
  have hvalue : b1.toNat * 2 ^ (8 + 2) + (b2.toNat * 2 ^ 2 + 0) =
      (b1.toNat * 2 ^ 16 + b2.toNat * 2 ^ 8) / 2 ^ 6 := by
    omega
  have hfilled : filledBits [b1, b2] =
      bits (6 + (6 + 6)) ((b1.toNat * 2 ^ 16 + b2.toNat * 2 ^ 8) / 2 ^ 6) := by
    rw [← hvalue]
    change _ = bits (8 + (8 + 2)) _
    rw [← bits_append hlow, ← bits_append (by decide : 0 < 2 ^ 2), bits_zero]
    simp [filledBits, missing]
  rw [encode, hfilled, bits_add, bits_add, sextets_bits_append, sextets_bits_append, sextets_bits,
    Nat.div_div_eq_div_mul, Nat.div_div_eq_div_mul]
  rfl

theorem encode_one (b1 : UInt8) :
    encode [b1] =
      [digit (b1.toNat * 2 ^ 16 / 2 ^ 18 % 64), digit (b1.toNat * 2 ^ 16 / 2 ^ 12 % 64),
        '=', '='] := by
  have hvalue : b1.toNat * 2 ^ 4 + 0 = b1.toNat * 2 ^ 16 / 2 ^ 12 := by
    omega
  have hfilled : filledBits [b1] = bits (6 + 6) (b1.toNat * 2 ^ 16 / 2 ^ 12) := by
    rw [← hvalue]
    change _ = bits (8 + 4) _
    rw [← bits_append (by decide : 0 < 2 ^ 4), bits_zero]
    simp [filledBits, missing]
  rw [encode, hfilled, bits_add, sextets_bits_append, sextets_bits, Nat.div_div_eq_div_mul]
  rfl

/-! ## The decoder -/

def decode (chars : List Char) : Option (List UInt8) := do
  let body := chars.takeWhile (· ≠ '=')
  guard (chars.dropWhile (· ≠ '=') = padding body.length)
  let values ← body.mapM digit?
  let all := values.flatMap (bits 6)
  let left := all.drop (all.length / 8 * 8)
  guard (left.length < 6 ∧ left.all (!·))
  return octets all

example : encode [0x4D, 0x61, 0x6E, 0x4D] = "TWFuTQ==".toList := by
  decide

/-! ## The round trip -/

theorem digit?_digit : ∀ value < 64, digit? (digit value) = some value := by
  decide

theorem digit_ne_padding {value : Nat} (hvalue : value < 64) : digit value ≠ '=' := by
  intro hpadding
  have hdigit := digit?_digit value hvalue
  rw [hpadding] at hdigit
  cases hdigit

theorem length_flatMap_bits {width : Nat} {α : Type*} {value : α → Nat} (items : List α) :
    (items.flatMap fun item => bits width (value item)).length = items.length * width := by
  induction items with
  | nil => simp
  | cons item items ih =>
      rw [List.flatMap_cons, List.length_append, ih, length_bits, List.length_cons, Nat.succ_mul,
        Nat.add_comm]

theorem length_filledBits (bytes : List UInt8) :
    (filledBits bytes).length = bytes.length * 8 + missing 6 (bytes.length * 8) := by
  rw [filledBits, List.length_append, List.length_replicate, length_flatMap_bits]

theorem length_filledBits_six (bytes : List UInt8) :
    (filledBits bytes).length = (filledBits bytes).length / 6 * 6 := by
  rw [length_filledBits, missing]
  omega

theorem sextets_lt {list : List Bool} (hlength : list.length = list.length / 6 * 6) {value : Nat}
    (hvalue : value ∈ sextets list) : value < 64 := by
  obtain ⟨group, hgroup, rfl⟩ := List.mem_map.mp hvalue
  have hlt := valueOf_lt group
  rwa [length_of_mem_groups hlength hgroup] at hlt

theorem flatMap_bits_sextets {list : List Bool} (hlength : list.length = list.length / 6 * 6) :
    (sextets list).flatMap (bits 6) = list := by
  have hgroups : (groups 6 (list.length / 6) list).map (fun group => bits 6 (valueOf group)) =
      groups 6 (list.length / 6) list := by
    conv_rhs => rw [← List.map_id (groups 6 (list.length / 6) list)]
    refine List.map_congr_left fun group hgroup => ?_
    have hbits := bits_valueOf group
    rwa [length_of_mem_groups hlength hgroup] at hbits
  rw [sextets, List.flatMap_def, List.map_map]
  change ((groups 6 (list.length / 6) list).map fun group => bits 6 (valueOf group)).flatten = list
  rw [hgroups, flatten_groups hlength]

theorem octets_filledBits (bytes : List UInt8) : octets (filledBits bytes) = bytes := by
  have hlength : (filledBits bytes).length / 8 = bytes.length := by
    rw [length_filledBits, missing]
    omega
  rw [octets, hlength, filledBits, groups_flatMap fun byte => length_bits 8 _, List.map_map]
  conv_rhs => rw [← List.map_id bytes]
  refine List.map_congr_left fun byte _ => ?_
  rw [Function.comp_apply, valueOf_bits, Nat.mod_eq_of_lt byte.toNat_lt]
  exact UInt8.ofNat_toNat

theorem mapM_digit? {values : List Nat} (hvalues : ∀ value ∈ values, value < 64) :
    (values.map digit).mapM digit? = some values := by
  induction values with
  | nil => rfl
  | cons value values ih =>
      rw [List.map_cons, List.mapM_cons, digit?_digit value (hvalues value List.mem_cons_self),
        ih fun other hother => hvalues other (List.mem_cons_of_mem _ hother)]
      rfl

theorem decode_of_digits {chars body : List Char} {values : List Nat}
    (hbody : chars.takeWhile (· ≠ '=') = body)
    (hrest : chars.dropWhile (· ≠ '=') = padding body.length)
    (hvalues : body.mapM digit? = some values)
    (hshort : ((values.flatMap (bits 6)).drop
      ((values.flatMap (bits 6)).length / 8 * 8)).length < 6)
    (hzeros : ((values.flatMap (bits 6)).drop
      ((values.flatMap (bits 6)).length / 8 * 8)).all (!·) = true) :
    decode chars = some (octets (values.flatMap (bits 6))) := by
  unfold decode
  simp only [hbody, hrest, hvalues, Option.bind_eq_bind, Option.bind_some, guard, hshort, hzeros,
    and_self, if_true]
  rfl

theorem decode_encode (bytes : List UInt8) : decode (encode bytes) = some bytes := by
  have hsix := length_filledBits_six bytes
  have hvalues : ∀ value ∈ sextets (filledBits bytes), value < 64 := fun _ => sextets_lt hsix
  have hdigits : ∀ c ∈ (sextets (filledBits bytes)).map digit, decide (c ≠ '=') = true := by
    intro c hc
    obtain ⟨value, hvalue, rfl⟩ := List.mem_map.mp hc
    exact decide_eq_true (digit_ne_padding (hvalues value hvalue))
  have hpadding : ∀ count, (List.replicate count '=').takeWhile (· ≠ '=') = [] ∧
      (List.replicate count '=').dropWhile (· ≠ '=') = List.replicate count '=' := by
    intro count
    cases count with
    | zero => exact ⟨rfl, rfl⟩
    | succ count => exact ⟨rfl, rfl⟩
  have hbody : (encode bytes).takeWhile (· ≠ '=') = (sextets (filledBits bytes)).map digit := by
    rw [encode, List.takeWhile_append_of_pos hdigits, padding, (hpadding _).1, List.append_nil]
  have hrest : (encode bytes).dropWhile (· ≠ '=') =
      padding ((sextets (filledBits bytes)).map digit).length := by
    rw [encode, List.dropWhile_append_of_pos hdigits, padding, (hpadding _).2]
  have hbits : (bytes.flatMap fun byte => bits 8 byte.toNat).length = bytes.length * 8 :=
    length_flatMap_bits bytes
  have hwhole : (filledBits bytes).length / 8 * 8 = bytes.length * 8 := by
    rw [length_filledBits, missing]
    omega
  have hleft : (filledBits bytes).drop ((filledBits bytes).length / 8 * 8) =
      List.replicate (missing 6 (bytes.length * 8)) false := by
    rw [hwhole, filledBits, List.drop_left' hbits, hbits]
  have hmissing : missing 6 (bytes.length * 8) < 6 := Nat.mod_lt _ (by decide)
  rw [decode_of_digits hbody hrest (mapM_digit? hvalues), flatMap_bits_sextets hsix,
    octets_filledBits]
  · rw [flatMap_bits_sextets hsix, hleft, List.length_replicate]
    exact hmissing
  · rw [flatMap_bits_sextets hsix, hleft]
    exact List.all_eq_true.mpr fun bit hbit => by rw [List.eq_of_mem_replicate hbit]; rfl

end Base64
