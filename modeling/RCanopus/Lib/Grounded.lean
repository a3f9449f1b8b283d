import Mathlib.Data.List.Basic
import Mathlib.Data.List.Infix

/-!
# Logs in causal order

An entry of a log may need other entries: it makes sense only after them. In a grounded log every
entry comes after what it needs, so each prefix of it is closed under needs.
-/

/-- Every entry comes after what it needs. -/
def Grounded {α : Type*} (needs : α → α → Prop) (l : List α) : Prop :=
  ∀ l₁ e l₂, l = l₁ ++ e :: l₂ → ∀ e', needs e e' → e' ∈ l₁

namespace Grounded

variable {α : Type*} {needs : α → α → Prop} {l l₁ l₂ : List α} {e e' : α}

theorem nil : Grounded needs [] := by
  intro l₁ e l₂ h
  simp at h

/-- An entry is added when all it needs is there. -/
theorem concat (h : Grounded needs l) (he : ∀ e', needs e e' → e' ∈ l) :
    Grounded needs (l ++ [e]) := by
  intro l₁ e₁ l₂ heq e' hn
  cases l₂ using List.reverseRecOn with
  | nil =>
    -- the entry is the new one
    obtain ⟨rfl, hlast⟩ := List.append_inj' heq rfl
    rw [List.cons.injEq] at hlast
    exact he e' (hlast.1 ▸ hn)
  | append_singleton l₃ a =>
    rw [← List.cons_append, ← List.append_assoc] at heq
    exact h l₁ e₁ l₃ (List.append_inj' heq rfl).1 e' hn

theorem of_isPrefix (h : Grounded needs l) (hp : l₁ <+: l) : Grounded needs l₁ := by
  obtain ⟨t, rfl⟩ := hp
  intro l₂ e l₃ heq e' hn
  exact h l₂ e (l₃ ++ t) (by rw [heq]; simp) e' hn

/-- What an entry needs is in the log. -/
theorem mem (h : Grounded needs l) (he : e ∈ l) (hn : needs e e') : e' ∈ l := by
  obtain ⟨l₁, l₂, rfl⟩ := List.append_of_mem he
  exact List.mem_append_left _ (h l₁ e l₂ rfl e' hn)

/-- What the next entry needs is in the prefix. -/
theorem mem_of_next (h : Grounded needs l) (hnext : l = l₁ ++ e :: l₂) (hn : needs e e') :
    e' ∈ l₁ := h l₁ e l₂ hnext e' hn

/-- A prefix that is one entry behind still has what the other prefix needs. -/
theorem mem_behind (h : Grounded needs l) (h₁ : l₁ <+: l) (h₂ : l₂ <+: l)
    (hlen : l₁.length ≤ l₂.length + 1) (he : e ∈ l₁) (hn : needs e e') : e' ∈ l₂ := by
  obtain ⟨a, t, rfl⟩ := List.append_of_mem he
  have ha : e' ∈ a := h.of_isPrefix h₁ a e t rfl e' hn
  have hal : a <+: l := (List.prefix_append a (e :: t)).trans h₁
  have hle : a.length ≤ l₂.length := by
    simp only [List.length_append, List.length_cons] at hlen
    omega
  exact (List.prefix_of_prefix_length_le hal h₂ hle).subset ha

end Grounded
