import Mangos.Framework.Digits
import Mathlib.Tactic.Ring

/-!
# The secrets of a password-authenticated key exchange

The server knows the power `v` of the generator whose exponent comes from the password, and each side draws
an exponent.
-/

namespace Framework

/-- What the server sends for the exponent `b`. -/
def serverPublic (N g k v b : Nat) : Nat := (v * k + modExp g b N) % N

def serverSecret (N A v u b : Nat) : Nat := modExp (A * modExp v u N) b N

def clientSecret (N g k B x u a : Nat) : Nat :=
  modExp (B + (N - modExp g x N) * k) (a + u * x) N

theorem serverSecret_eq (N A v u b : Nat) : serverSecret N A v u b = (A * v ^ u) ^ b % N := by
  rw [serverSecret, modExp_eq, modExp_eq]
  exact ((Nat.mod_modEq (v ^ u) N).mul_left A).pow b

theorem serverPublic_add {N : Nat} (hN : 0 < N) (g k x b : Nat) :
    serverPublic N g k (modExp g x N) b + (N - modExp g x N) * k ≡ g ^ b [MOD N] := by
  have hlt := modExp_lt g x hN
  have hsum : modExp g x N * k + (N - modExp g x N) * k = N * k := by
    rw [← Nat.add_mul, Nat.add_sub_cancel' hlt.le]
  have hpublic : serverPublic N g k (modExp g x N) b ≡ modExp g x N * k + modExp g b N [MOD N] :=
    Nat.mod_modEq _ _
  calc serverPublic N g k (modExp g x N) b + (N - modExp g x N) * k
      ≡ modExp g x N * k + modExp g b N + (N - modExp g x N) * k [MOD N] := hpublic.add_right _
    _ = modExp g b N + N * k := by
        rw [← hsum]
        ring
    _ ≡ modExp g b N [MOD N] := Nat.add_mul_mod_self_left _ _ _
    _ ≡ g ^ b [MOD N] := by
        rw [modExp_eq]
        exact Nat.mod_modEq _ _

theorem serverSecret_eq_clientSecret {N : Nat} (hN : 0 < N) (g k x a b u : Nat) :
    serverSecret N (modExp g a N) (modExp g x N) u b =
      clientSecret N g k (serverPublic N g k (modExp g x N) b) x u a := by
  rw [serverSecret_eq, clientSecret, modExp_eq _ (a + u * x)]
  have hA : modExp g a N ≡ g ^ a [MOD N] := by
    rw [modExp_eq]
    exact Nat.mod_modEq _ _
  have hv : modExp g x N ≡ g ^ x [MOD N] := by
    rw [modExp_eq]
    exact Nat.mod_modEq _ _
  calc (modExp g a N * modExp g x N ^ u) ^ b
      ≡ (g ^ a * (g ^ x) ^ u) ^ b [MOD N] := (hA.mul (hv.pow u)).pow b
    _ = (g ^ b) ^ (a + u * x) := by
        rw [← pow_mul, ← pow_add, ← pow_mul, ← pow_mul]
        congr 1
        ring
    _ ≡ (serverPublic N g k (modExp g x N) b + (N - modExp g x N) * k) ^ (a + u * x) [MOD N] :=
        (serverPublic_add hN g k x b).symm.pow _

end Framework
