import Chatline.Ledger
import Mathlib.Data.List.Nodup
import Mathlib.Data.List.Perm.Subperm
/-!
# Entering into ledgers

Entering a value under a key that is there replaces the value in place, so a ledger into
which values are entered one by one keeps all of them only if no key comes twice:
`foldl_put_eq_iff` says when it is just the list of what was entered.
-/

namespace Chatline.Ledger

variable {κ υ ω : Type} [BEq κ] {f : υ → ω} {ledger entries : Ledger κ υ} {key : κ} {value : υ}

/-! ## Other values -/

/-- The ledger with each value changed. -/
def mapValues (f : υ → ω) (ledger : Ledger κ υ) : Ledger κ ω :=
  ledger.map fun entry => (entry.1, f entry.2)

@[simp] theorem hasKey_mapValues : (mapValues f ledger).hasKey key = ledger.hasKey key := by
  rw [hasKey, mapValues, List.any_map]
  rfl

omit [BEq κ] in
@[simp] theorem keys_mapValues : (mapValues f ledger).map Prod.fst = ledger.map Prod.fst := by
  rw [mapValues, List.map_map]
  rfl

/-- Entering new keys does not look at the values. -/
theorem putAllNew_mapValues (f : υ → ω) (ledger entries : Ledger κ υ) :
    putAllNew (mapValues f ledger) (mapValues f entries) =
      mapValues f (putAllNew ledger entries) := by
  induction entries generalizing ledger with
  | nil => rfl
  | cons entry entries ih =>
    have hput : putNew (mapValues f ledger) entry.1 (f entry.2) =
        mapValues f (putNew ledger entry.1 entry.2) := by
      rw [putNew, putNew, hasKey_mapValues]
      split
      · rfl
      · rw [mapValues, mapValues, List.map_append]
        rfl
    exact (congrArg (putAllNew · (mapValues f entries)) hput).trans (ih _)

/-- Entering new keys makes up no entries. -/
theorem mem_putAllNew {entry : κ × υ} (h : entry ∈ putAllNew ledger entries) :
    entry ∈ ledger ∨ entry ∈ entries := by
  induction entries generalizing ledger with
  | nil => exact Or.inl h
  | cons first entries ih =>
    rcases ih h with hput | hlater
    · change entry ∈ putNew ledger first.1 first.2 at hput
      rw [putNew] at hput
      split at hput
      · exact Or.inl hput
      · rcases List.mem_append.1 hput with hold | hnew
        · exact Or.inl hold
        · rw [List.mem_singleton] at hnew
          exact Or.inr (hnew ▸ List.mem_cons_self)
    · exact Or.inr (List.mem_cons_of_mem _ hlater)

theorem value?_mapValues :
    (mapValues f ledger).value? key = (ledger.value? key).map f := by
  rw [value?, value?, mapValues, List.find?_map, Option.map_map, Option.map_map]
  rfl

/-! ## Keys -/

section Keys

variable [LawfulBEq κ] {α : Type} {k : α → κ} {v w : α → υ} {xs : List α}

theorem hasKey_iff : ledger.hasKey key = true ↔ key ∈ ledger.map Prod.fst := by
  rw [hasKey, List.any_eq_true, List.mem_map]
  simp only [beq_iff_eq]

/-- Under a key that is not there no value was entered. -/
theorem value?_of_notMem (h : key ∉ ledger.map Prod.fst) : ledger.value? key = none := by
  have hfind : ledger.find? (fun entry => entry.1 == key) = none := by
    refine List.find?_eq_none.2 fun entry hentry hkey => ?_
    exact h (List.mem_map.2 ⟨entry, hentry, beq_iff_eq.1 hkey⟩)
  rw [value?, hfind, Option.map_none]

/-- **The value of a key** is the one that all its entries have. -/
theorem value?_of_forall (hkey : key ∈ ledger.map Prod.fst)
    (h : ∀ entry ∈ ledger, entry.1 = key → entry.2 = value) : ledger.value? key = some value := by
  obtain ⟨entry, hentry, hsame⟩ := List.mem_map.1 hkey
  cases hfind : ledger.find? (fun entry => entry.1 == key) with
  | none => exact absurd (beq_iff_eq.2 hsame) (List.find?_eq_none.1 hfind entry hentry)
  | some first =>
    have hfound := List.find?_some hfind
    have hfirst := h first (List.mem_of_find?_eq_some hfind) (beq_iff_eq.1 hfound)
    rw [value?, hfind, Option.map_some, hfirst]

/-- **Where no key is there twice**, the value of a key is what was entered under it. -/
theorem value?_eq_some_iff (h : (ledger.map Prod.fst).Nodup) :
    ledger.value? key = some value ↔ (key, value) ∈ ledger := by
  constructor
  · intro hvalue
    obtain ⟨entry, hfind, rfl⟩ := Option.map_eq_some_iff.1 hvalue
    have hkey := List.find?_some hfind
    rw [← beq_iff_eq.1 hkey]
    exact List.mem_of_find?_eq_some hfind
  · intro hmem
    refine value?_of_forall (List.mem_map_of_mem hmem) fun entry hentry hkey => ?_
    rw [List.inj_on_of_nodup_map h hentry hmem hkey]

/-- The keys that are there after new keys were entered. -/
theorem mem_keys_putAllNew :
    key ∈ (putAllNew ledger entries).map Prod.fst ↔
      key ∈ ledger.map Prod.fst ∨ key ∈ entries.map Prod.fst := by
  induction entries generalizing ledger with
  | nil => simp [putAllNew]
  | cons entry entries ih =>
    have hstep : putAllNew ledger (entry :: entries) =
        putAllNew (putNew ledger entry.1 entry.2) entries := rfl
    have hput : key ∈ (putNew ledger entry.1 entry.2).map Prod.fst ↔
        key ∈ ledger.map Prod.fst ∨ key = entry.1 := by
      rw [putNew]
      split
      · next hthere =>
        -- the key of the entry is there already
        exact ⟨Or.inl, fun h => h.elim id fun heq => heq ▸ hasKey_iff.1 hthere⟩
      · rw [List.map_append, List.mem_append, List.map_singleton, List.mem_singleton]
    rw [hstep, ih, hput, List.map_cons, List.mem_cons, or_assoc]

/-- The keys that are there after a value was entered. -/
theorem hasKey_put {other : κ} :
    (put ledger key value).hasKey other = (key == other || ledger.hasKey other) := by
  induction ledger with
  | nil => simp [put, hasKey]
  | cons entry ledger ih =>
    rw [put]
    split
    · next hkey => simp [hasKey, (beq_iff_eq.1 hkey).symm]
    · simp only [hasKey, List.any_cons] at ih ⊢
      rw [ih]
      exact Bool.or_left_comm _ _ _

/-- The value of a key after a value was entered. -/
theorem value?_put {other : κ} :
    (put ledger key value).value? other =
      if key == other then some value else ledger.value? other := by
  induction ledger with
  | nil => by_cases h : (key == other) = true <;> simp [put, value?, h]
  | cons entry ledger ih =>
    rw [put]
    split
    · next hkey =>
      obtain rfl := beq_iff_eq.1 hkey
      by_cases h : (entry.1 == other) = true <;> simp [value?, h]
    · next hkey =>
      by_cases h : (entry.1 == other) = true
      · -- then the key is another one
        have hne : ¬ (key == other) = true := fun hother =>
          hkey (beq_iff_eq.2 ((beq_iff_eq.1 h).trans (beq_iff_eq.1 hother).symm))
        simp [value?, h, hne]
      · simpa [value?, h] using ih

/-- The keys that are there after values were entered for some keys. -/
theorem hasKey_foldl_put (k : α → κ) (v : α → υ) (xs : List α) (ledger : Ledger κ υ)
    (key : κ) :
    (xs.foldl (fun ledger x => put ledger (k x) (v x)) ledger).hasKey key =
      (xs.any (k · == key) || ledger.hasKey key) := by
  induction xs generalizing ledger with
  | nil => rfl
  | cons x xs ih => rw [List.foldl_cons, ih, hasKey_put, List.any_cons, ← Bool.or_assoc,
      Bool.or_comm (xs.any _)]

/-- No other keys are there. -/
theorem keys_foldl_put_subset :
    (xs.foldl (fun ledger x => put ledger (k x) (v x)) []).map Prod.fst ⊆ xs.map k := by
  intro key hkey
  have hany := hasKey_foldl_put k v xs [] key
  rw [hasKey_iff.2 hkey] at hany
  simpa [hasKey] using hany.symm

/-- A key that is there keeps its place. -/
theorem keys_put_of_mem (h : key ∈ ledger.map Prod.fst) :
    (put ledger key value).map Prod.fst = ledger.map Prod.fst := by
  induction ledger with
  | nil => cases h
  | cons entry ledger ih =>
    rw [put]
    split
    · next hkey => rw [List.map_cons, List.map_cons, beq_iff_eq.1 hkey]
    · next hkey =>
      have hne : key ≠ entry.1 := fun heq => hkey (beq_iff_eq.2 heq.symm)
      have hlater : key ∈ ledger.map Prod.fst := List.mem_of_ne_of_mem hne h
      rw [List.map_cons, List.map_cons, ih hlater]

/-- A key that is not there comes last. -/
theorem put_of_notMem (h : key ∉ ledger.map Prod.fst) :
    put ledger key value = ledger ++ [(key, value)] := by
  induction ledger with
  | nil => rfl
  | cons entry ledger ih =>
    rw [List.map_cons, List.mem_cons, not_or] at h
    obtain ⟨hne, hlater⟩ := h
    have hkey : ¬ (entry.1 == key) = true := fun heq => hne (beq_iff_eq.1 heq).symm
    rw [put, if_neg hkey, ih hlater]
    rfl

theorem nodup_keys_put (h : (ledger.map Prod.fst).Nodup) :
    ((put ledger key value).map Prod.fst).Nodup := by
  by_cases hmem : key ∈ ledger.map Prod.fst
  · rwa [keys_put_of_mem hmem]
  · have hapart : ∀ a ∈ ledger.map Prod.fst, ∀ b ∈ [key], a ≠ b := by
      intro a ha b hb heq
      rw [List.mem_singleton] at hb
      rw [heq, hb] at ha
      exact hmem ha
    rw [put_of_notMem hmem, List.map_append]
    exact List.nodup_append.2 ⟨h, List.nodup_singleton _, hapart⟩

/-- **No key is there twice.** -/
theorem nodup_keys_foldl_put (h : (ledger.map Prod.fst).Nodup) :
    ((xs.foldl (fun ledger x => put ledger (k x) (v x)) ledger).map Prod.fst).Nodup := by
  induction xs generalizing ledger with
  | nil => exact h
  | cons x xs ih => exact ih (nodup_keys_put h)

/-- Values for different keys are entered one behind the other. -/
theorem foldl_put_of_nodup (h : (ledger.map Prod.fst ++ xs.map k).Nodup) :
    xs.foldl (fun ledger x => put ledger (k x) (v x)) ledger =
      ledger ++ xs.map fun x => (k x, v x) := by
  induction xs generalizing ledger with
  | nil => exact (List.append_nil _).symm
  | cons x xs ih =>
    have hmem : k x ∉ ledger.map Prod.fst := fun hx =>
      (List.nodup_append.1 h).2.2 _ hx _ List.mem_cons_self rfl
    have hput : put ledger (k x) (v x) = ledger ++ [(k x, v x)] := put_of_notMem hmem
    have hlater : ((ledger ++ [(k x, v x)]).map Prod.fst ++ xs.map k).Nodup := by
      rw [List.map_append, List.append_assoc]
      exact h
    rw [List.foldl_cons, hput, ih hlater, List.append_assoc]
    rfl

theorem putAll_of_nodup (h : ((ledger ++ entries).map Prod.fst).Nodup) :
    putAll ledger entries = ledger ++ entries := by
  rw [List.map_append] at h
  have hput := foldl_put_of_nodup (v := Prod.snd) h
  rw [List.map_id'] at hput
  exact hput

theorem foldl_put_nil_of_nodup (h : (xs.map k).Nodup) :
    xs.foldl (fun ledger x => put ledger (k x) (v x)) [] = xs.map fun x => (k x, v x) := by
  have hnil : (([] : Ledger κ υ).map Prod.fst ++ xs.map k).Nodup := h
  exact foldl_put_of_nodup hnil

/-- **There are as many entries as values** exactly if no key comes twice. -/
theorem length_foldl_put_iff :
    (xs.foldl (fun ledger x => put ledger (k x) (v x)) []).length = xs.length ↔
      (xs.map k).Nodup := by
  constructor
  · intro hlength
    have hnodup : ((xs.foldl (fun ledger x => put ledger (k x) (v x)) []).map Prod.fst).Nodup :=
      nodup_keys_foldl_put List.nodup_nil
    -- as many different keys as there were keys: none of these was there twice
    have hperm := (hnodup.subperm keys_foldl_put_subset).perm_of_length_le (by simp [hlength])
    exact hperm.nodup_iff.1 hnodup
  · intro hnodup
    rw [foldl_put_nil_of_nodup hnodup, List.length_map]

/-- **A ledger is the list of what was entered** exactly if no key comes twice. -/
theorem foldl_put_eq_iff :
    xs.foldl (fun ledger x => put ledger (k x) (v x)) [] = xs.map (fun x => (k x, w x)) ↔
      (xs.map k).Nodup ∧ ∀ x ∈ xs, v x = w x := by
  have hsame : xs.map (fun x => (k x, v x)) = xs.map (fun x => (k x, w x)) ↔
      ∀ x ∈ xs, v x = w x := by
    rw [List.map_inj_left]
    simp only [Prod.mk.injEq, true_and]
  constructor
  · intro heq
    have hnodup : (xs.map k).Nodup := by
      rw [← length_foldl_put_iff (v := v), heq, List.length_map]
    rw [foldl_put_nil_of_nodup hnodup] at heq
    exact ⟨hnodup, hsame.1 heq⟩
  · rintro ⟨hnodup, hvalues⟩
    rw [foldl_put_nil_of_nodup hnodup]
    exact hsame.2 hvalues

end Keys

end Chatline.Ledger
