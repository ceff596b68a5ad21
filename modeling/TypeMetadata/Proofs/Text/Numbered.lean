import TypeMetadata.Proofs.Text.Parted

/-!
Names with a number behind an underscore. The digits hold no underscore, so the last underscore
parts the name from the number, whatever underscores and digits the name itself holds.
-/

namespace TypeMetadata.Text

theorem toDigits_inj {m n : Nat} (heq : Nat.toDigits 10 m = Nat.toDigits 10 n) : m = n := by
  rw [← Nat.ofDigitChars_ten_toDigits (n := m), heq, Nat.ofDigitChars_ten_toDigits]

theorem toList_toString (n : Nat) : (toString n).toList = Nat.toDigits 10 n := by
  rw [Nat.toString_eq_ofList_toDigits, String.toList_ofList]

theorem numbered_inj {s t : String} {m n : Nat}
    (heq : s ++ "_" ++ toString m = t ++ "_" ++ toString n) : s = t ∧ m = n := by
  rw [← String.toList_inj, toList_underscored, toList_underscored, toList_toString,
    toList_toString] at heq
  obtain ⟨hname, hdigits⟩ := append_cons_inj Nat.underscore_not_in_toDigits
    Nat.underscore_not_in_toDigits heq
  exact ⟨String.toList_inj.mp hname, toDigits_inj hdigits⟩

end TypeMetadata.Text
