import Mathlib.Data.List.Chain

set_option autoImplicit false

namespace Glassbeetle

variable {α κ : Type}

structure MaximalRuns (key : α → κ) (items : List α) (runs : List (List α)) : Prop where
  flatten : runs.flatten = items
  nonempty : ∀ run ∈ runs, run ≠ []
  uniform : ∀ run ∈ runs, ∀ a ∈ run, ∀ b ∈ run, key a = key b
  maximal : runs.IsChain fun l r => ∀ a ∈ l, ∀ b ∈ r, key a ≠ key b

namespace MaximalRuns

variable {key : α → κ} {items : List α} {runs : List (List α)}

theorem empty (key : α → κ) : MaximalRuns key [] [] where
  flatten := rfl
  nonempty _ h := absurd h List.not_mem_nil
  uniform _ h := absurd h List.not_mem_nil
  maximal := List.IsChain.nil

theorem extend {last : List α} (h : MaximalRuns key items (runs ++ [last])) (item : α)
    (hkey : ∀ a ∈ last, key a = key item) :
    MaximalRuns key (items ++ [item]) (runs ++ [last ++ [item]]) where
  flatten := by
    rw [← h.flatten]
    simp
  nonempty run hrun := by
    rcases List.mem_append.mp hrun with hrun | hrun
    · exact h.nonempty run (List.mem_append_left _ hrun)
    · obtain rfl := List.mem_singleton.mp hrun
      simp
  uniform run hrun a ha b hb := by
    rcases List.mem_append.mp hrun with hrun | hrun
    · exact h.uniform run (List.mem_append_left _ hrun) a ha b hb
    · obtain rfl := List.mem_singleton.mp hrun
      have hitem : ∀ c ∈ last ++ [item], key c = key item := by
        intro c hc
        rcases List.mem_append.mp hc with hc | hc
        · exact hkey c hc
        · rw [List.mem_singleton.mp hc]
      rw [hitem a ha, hitem b hb]
  maximal := by
    obtain ⟨hinit, -, hlast⟩ := List.isChain_append.mp h.maximal
    refine hinit.append (List.isChain_singleton _) fun l hl r hr a ha b hb => ?_
    obtain rfl : last ++ [item] = r := by simpa using hr
    have hne := hlast l hl last (by simp)
    rcases List.mem_append.mp hb with hb | hb
    · exact hne a ha b hb
    · obtain ⟨c, hc⟩ := List.exists_mem_of_ne_nil last (h.nonempty last (by simp))
      rw [List.mem_singleton.mp hb, ← hkey c hc]
      exact hne a ha c hc

theorem start (h : MaximalRuns key items runs) (item : α)
    (hkey : ∀ last ∈ runs.getLast?, ∀ a ∈ last, key a ≠ key item) :
    MaximalRuns key (items ++ [item]) (runs ++ [[item]]) where
  flatten := by
    rw [← h.flatten]
    simp
  nonempty run hrun := by
    rcases List.mem_append.mp hrun with hrun | hrun
    · exact h.nonempty run hrun
    · obtain rfl := List.mem_singleton.mp hrun
      exact List.cons_ne_nil _ _
  uniform run hrun a ha b hb := by
    rcases List.mem_append.mp hrun with hrun | hrun
    · exact h.uniform run hrun a ha b hb
    · obtain rfl := List.mem_singleton.mp hrun
      rw [List.mem_singleton.mp ha, List.mem_singleton.mp hb]
  maximal := by
    refine h.maximal.append (List.isChain_singleton _) fun l hl r hr a ha b hb => ?_
    obtain rfl : [item] = r := by simpa using hr
    rw [List.mem_singleton.mp hb]
    exact hkey l hl a ha

theorem alternate {β : Type} (h : MaximalRuns key items runs) (made : List α → β) (mark : β → κ)
    (hmark : ∀ run ∈ runs, ∀ a ∈ run, mark (made run) = key a) :
    (runs.map made).IsChain fun a b => mark a ≠ mark b := by
  refine (List.isChain_map made).mpr (h.maximal.imp_of_mem_imp fun l r hl hr hne => ?_)
  obtain ⟨a, ha⟩ := List.exists_mem_of_ne_nil l (h.nonempty l hl)
  obtain ⟨b, hb⟩ := List.exists_mem_of_ne_nil r (h.nonempty r hr)
  rw [hmark l hl a ha, hmark r hr b hb]
  exact hne a ha b hb

end MaximalRuns

end Glassbeetle
