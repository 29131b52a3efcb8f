import InsectPortal.Keyring

/-!
# What a keyring holds

The credential a keyring shows after each of its writes. Only these statements look at the stored
items; everything about sessions goes through them.
-/
namespace InsectPortal

namespace Credential

theorem isEmpty_iff {c : Credential} : c.isEmpty = true ↔ c = ⟨none, none⟩ := by
  obtain ⟨token, user⟩ := c
  cases token <;> cases user <;> simp [isEmpty]

theorem isComplete_iff {c : Credential} :
    c.isComplete = true ↔ ∃ token user, c = ⟨some token, some user⟩ := by
  obtain ⟨token, user⟩ := c
  cases token <;> cases user <;> simp [isComplete]

end Credential

namespace Items

theorem filled?_insert (items : Items) (key value key' : String) :
    (items.insert key value).filled? key' =
      if key' = key then (if value = "" then none else some value) else items.filled? key' := by
  unfold filled?
  rw [get?_insert]
  by_cases hk : key' = key
  · by_cases hv : value = "" <;> simp [hk, hv, Option.filter]
  · simp [hk]

theorem credential_empty : empty.credential = ⟨none, none⟩ := rfl

end Items

namespace Keyring

@[simp] theorem credential_clear (k : Keyring) : k.clear.credential = ⟨none, none⟩ := rfl

theorem credential_establish (k : Keyring) {token user : String} (ht : token ≠ "")
    (hu : user ≠ "") : (k.establish token user).credential = ⟨some token, some user⟩ := by
  have hk : Items.userKey ≠ Items.tokenKey := by decide
  simp [establish, write, credential, Items.credential, Items.apply, Items.filled?_insert,
    hk, ht, hu]

/-- What is restored is the stored pair where it is complete, and nothing otherwise. -/
theorem credential_ofItems (items : Items) :
    (ofItems items).credential =
      if items.credential.isComplete then items.credential else ⟨none, none⟩ := by
  unfold ofItems
  by_cases hc : items.credential.isComplete = true
  · simp [hc, credential]
  · by_cases he : items.credential.isEmpty = true
    · have hn := Credential.isEmpty_iff.mp he
      simp only [he, Bool.or_true, if_true, hc]
      exact hn
    · simp [hc, he, write, credential, Items.apply, Items.credential_empty]

theorem ofItems_complete_or_empty (items : Items) :
    (ofItems items).credential.isComplete = true ∨
      (ofItems items).credential.isEmpty = true := by
  rw [credential_ofItems]
  by_cases hc : items.credential.isComplete = true
  · exact Or.inl (by simp [hc])
  · exact Or.inr (by simp [hc, Credential.isEmpty])

end Keyring

end InsectPortal
