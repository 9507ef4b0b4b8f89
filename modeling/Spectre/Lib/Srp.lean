/-
The arithmetic of the secure remote password protocol, and numbers as
bytes.

Client and server raise different things to different powers modulo a
number and come to the same: the client knows the exponent `x` of the
verifier `v = g^x` and takes `v` off the server's key, the server knows
only `v` and multiplies it in. Nothing is needed of the modulus or of
the generator (`secrets_agree`).

A number is little-endian in as many bytes as it needs, or zero-padded
to a width; the padded form is determined by its length and its value
(`IsBytes.unique`).
-/
import Mathlib.Data.Nat.Digits.Lemmas
import Mathlib.Data.Nat.ModEq
import Mathlib.Tactic.Ring

namespace Lib.Srp

-- ================================================================ the secrets

section Secrets

variable (N g : Nat)

/-- The server's key without the verifier is a power of the generator. -/
theorem strip_verifier {N v b : Nat} (hv : v < N) : ((v + g ^ b) % N + N - v) % N = g ^ b % N := by
  have hsum : (v + g ^ b) % N + N - v + v ≡ g ^ b + v [MOD N] := by
    have hcancel : (v + g ^ b) % N + N - v + v = (v + g ^ b) % N + N :=
      Nat.sub_add_cancel (by omega)
    calc (v + g ^ b) % N + N - v + v ≡ (v + g ^ b) % N + N [MOD N] := by rw [hcancel]
      _ ≡ v + g ^ b [MOD N] := by
        rw [Nat.ModEq, Nat.add_mod_right, Nat.mod_mod]
      _ ≡ g ^ b + v [MOD N] := by rw [Nat.add_comm]
  exact Nat.ModEq.add_right_cancel' v hsum

/-- What the client computes from the server's key is what the server
computes from the client's. -/
theorem secrets_agree (a b u x : Nat) :
    (g ^ b % N) ^ (a + u * x) % N = ((g ^ a % N) * (g ^ x % N) ^ u) ^ b % N := by
  have hclient : (g ^ b % N) ^ (a + u * x) ≡ (g ^ b) ^ (a + u * x) [MOD N] :=
    (Nat.mod_modEq _ _).pow _
  have hserver : ((g ^ a % N) * (g ^ x % N) ^ u) ^ b ≡ (g ^ a * (g ^ x) ^ u) ^ b [MOD N] :=
    ((Nat.mod_modEq _ _).mul ((Nat.mod_modEq _ _).pow u)).pow b
  have hexp : (g ^ b) ^ (a + u * x) = (g ^ a * (g ^ x) ^ u) ^ b := by
    rw [← pow_mul, ← pow_mul, ← pow_add, ← pow_mul]
    congr 1
    ring
  calc (g ^ b % N) ^ (a + u * x) ≡ (g ^ b) ^ (a + u * x) [MOD N] := hclient
    _ ≡ (g ^ a * (g ^ x) ^ u) ^ b [MOD N] := by rw [hexp]
    _ ≡ ((g ^ a % N) * (g ^ x % N) ^ u) ^ b [MOD N] := hserver.symm

end Secrets

-- ================================================================== the bytes

/-- The number some little-endian bytes are. -/
def ofBytesLe (bytes : List UInt8) : Nat := Nat.ofDigits 256 (bytes.map UInt8.toNat)

/-- A number in as many bytes as it needs, at least one. -/
def toBytesLe (n : Nat) : List UInt8 := if n = 0 then [0] else (Nat.digits 256 n).map UInt8.ofNat

/-- Bytes copied to the front of so many zeros; those that find no room
are left out. -/
def padTo (width : Nat) (bytes : List UInt8) : List UInt8 :=
  bytes.take width ++ List.replicate (width - bytes.length) 0

/-- The bytes are the number, in so many bytes. -/
def IsBytes (width : Nat) (bytes : List UInt8) (n : Nat) : Prop :=
  bytes.length = width ∧ ofBytesLe bytes = n

theorem toNat_lt_of_mem {bytes : List UInt8} : ∀ d ∈ bytes.map UInt8.toNat, d < 256 := by
  intro d hd
  obtain ⟨b, _, rfl⟩ := List.mem_map.1 hd
  exact b.toNat_lt

theorem ofBytesLe_lt (bytes : List UInt8) : ofBytesLe bytes < 256 ^ bytes.length := by
  have hdigits : ∀ d ∈ bytes.map UInt8.toNat, d < 256 := toNat_lt_of_mem
  have h := Nat.ofDigits_lt_base_pow_length (by decide : 1 < 256) hdigits
  rw [List.length_map] at h
  exact h

/-- The form of a width is determined by the number. -/
theorem IsBytes.unique {width n : Nat} {bytes bytes' : List UInt8} (h : IsBytes width bytes n)
    (h' : IsBytes width bytes' n) : bytes = bytes' := by
  have hlen : (bytes.map UInt8.toNat).length = (bytes'.map UInt8.toNat).length := by
    rw [List.length_map, List.length_map, h.1, h'.1]
  have hdigits :=
    Nat.ofDigits_inj_of_len_eq (by decide : 1 < 256) hlen toNat_lt_of_mem toNat_lt_of_mem
    (h.2.trans h'.2.symm)
  exact List.map_injective_iff.2 (fun a b hab => UInt8.toNat_inj.1 hab) hdigits

theorem ofBytesLe_toBytesLe (n : Nat) : ofBytesLe (toBytesLe n) = n := by
  unfold toBytesLe
  by_cases hn : n = 0
  · rw [if_pos hn, hn]
    rfl
  · rw [if_neg hn]
    unfold ofBytesLe
    have hmap : ((Nat.digits 256 n).map UInt8.ofNat).map UInt8.toNat = Nat.digits 256 n := by
      rw [List.map_map]
      refine (List.map_congr_left fun d hd => ?_).trans (List.map_id _)
      have hlt := Nat.digits_lt_base (by decide : 1 < 256) hd
      rw [Function.comp_apply, UInt8.toNat_ofNat', Nat.mod_eq_of_lt hlt]
      rfl
    rw [hmap, Nat.ofDigits_digits]

theorem length_toBytesLe {n width : Nat} (hwidth : 0 < width) (hn : n < 256 ^ width) :
    (toBytesLe n).length ≤ width := by
  unfold toBytesLe
  split
  · exact hwidth
  · rw [List.length_map]
    exact (Nat.digits_length_le_iff (by decide : 1 < 256) n).2 hn

/-- A number that fits a width, padded to it. -/
theorem isBytes_padTo {n width : Nat} (hwidth : 0 < width) (hn : n < 256 ^ width) :
    IsBytes width (padTo width (toBytesLe n)) n := by
  have hlen := length_toBytesLe hwidth hn
  unfold padTo
  rw [List.take_of_length_le hlen]
  constructor
  · rw [List.length_append, List.length_replicate]
    omega
  · unfold ofBytesLe
    rw [List.map_append, List.map_replicate]
    exact (Nat.ofDigits_append_replicate_zero _).trans (ofBytesLe_toBytesLe n)

end Lib.Srp
