import VpnTray.Bus.Registry

/-!
# Registries made from lists

A registry that is made from a list of properties with different names has just these:

* `Registry.find_ofList_self`: what is found is what the list has under the name;
* `Registry.run_getAll_ofList`: what is read is what the list has, in some order, as
  long as reading changes nothing.
-/

namespace VpnTray.Bus

namespace Names

variable {α : Type}

/-- Adds things, one after the other. -/
def putAll (names : Names α) (entries : List (String × α)) : Names α :=
  entries.foldl (fun names (name, a) => names.put name a) names

theorem perm_put {name : String} {names : Names α} (h : name ∉ names.map Prod.fst) (a : α) :
    (names.put name a).Perm ((name, a) :: names) := by
  induction names with
  | nil => exact .refl _
  | cons entry rest ih =>
    obtain ⟨other, b⟩ := entry
    rw [List.map_cons, List.mem_cons, not_or] at h
    rw [put, if_neg h.1]
    split
    · exact .refl _
    · exact ((ih h.2).cons _).trans (.swap _ _ _)

theorem eq_or_mem_of_mem_put {name : String} {a : α} {names : Names α} {entry : String × α}
    (h : entry ∈ names.put name a) : entry = (name, a) ∨ entry ∈ names := by
  induction names with
  | nil => exact .inl (List.mem_singleton.1 h)
  | cons first rest ih =>
    rw [put] at h
    split at h
    · exact (List.mem_cons.1 h).imp_right (List.mem_cons_of_mem _)
    · split at h
      · exact List.mem_cons.1 h
      · rcases List.mem_cons.1 h with rfl | h
        · exact .inr List.mem_cons_self
        · exact (ih h).imp_right (List.mem_cons_of_mem _)

/-- The names still ascend when a thing is put among them. -/
theorem ascending_put {names : Names α} (h : names.Pairwise fun entry other => entry.1 < other.1)
    (name : String) (a : α) :
    (names.put name a).Pairwise fun entry other => entry.1 < other.1 := by
  induction names with
  | nil => exact List.pairwise_singleton _ _
  | cons first rest ih =>
    obtain ⟨other, b⟩ := first
    obtain ⟨hfirst, hrest⟩ := List.pairwise_cons.1 h
    rw [put]
    split
    next heq =>
      subst heq
      exact List.pairwise_cons.2 ⟨hfirst, hrest⟩
    next hne =>
      split
      next hlt =>
        refine List.pairwise_cons.2 ⟨List.forall_mem_cons.2 ⟨hlt, ?_⟩, h⟩
        exact fun entry hentry => String.lt_trans hlt (hfirst entry hentry)
      next hnlt =>
        have hother : other < name :=
          Classical.byContradiction fun hngt =>
            hne (String.le_antisymm (String.not_lt.1 hngt) (String.not_lt.1 hnlt))
        refine List.pairwise_cons.2 ⟨fun entry hentry => ?_, ih hrest⟩
        rcases eq_or_mem_of_mem_put hentry with rfl | hentry
        · exact hother
        · exact hfirst entry hentry

theorem ascending_putAll {names : Names α}
    (h : names.Pairwise fun entry other => entry.1 < other.1) (entries : List (String × α)) :
    (names.putAll entries).Pairwise fun entry other => entry.1 < other.1 := by
  induction entries generalizing names with
  | nil => exact h
  | cons entry entries ih => exact ih (ascending_put h entry.1 entry.2)

theorem perm_putAll {names : Names α} {entries : List (String × α)}
    (h : ((names ++ entries).map Prod.fst).Nodup) :
    (names.putAll entries).Perm (names ++ entries) := by
  induction entries generalizing names with
  | nil => rw [List.append_nil]; exact .refl _
  | cons entry entries ih =>
    obtain ⟨name, a⟩ := entry
    have hmiddle : (names ++ (name, a) :: entries).Perm ((name, a) :: names ++ entries) :=
      List.perm_middle
    have hnodup : (((name, a) :: names ++ entries).map Prod.fst).Nodup :=
      (hmiddle.map Prod.fst).nodup_iff.1 h
    have hname : name ∉ names.map Prod.fst := by
      intro hmem
      rw [List.cons_append, List.map_cons, List.nodup_cons, List.map_append] at hnodup
      exact hnodup.1 (List.mem_append_left _ hmem)
    have hput : (names.put name a ++ entries).Perm ((name, a) :: names ++ entries) :=
      (perm_put hname a).append_right entries
    -- The first of the entries has been put among the names, and the others follow.
    have hrest := ih ((hput.map Prod.fst).nodup_iff.2 hnodup)
    exact hrest.trans (hput.trans hmiddle.symm)

theorem lookup_putAll {names : Names α} {entries : List (String × α)}
    (h : (entries.map Prod.fst).Nodup) (name : String) :
    (names.putAll entries).lookup name = (entries.lookup name).or (names.lookup name) := by
  induction entries generalizing names with
  | nil => rfl
  | cons entry entries ih =>
    obtain ⟨other, a⟩ := entry
    rw [List.map_cons, List.nodup_cons] at h
    have hrest : (names.putAll ((other, a) :: entries)).lookup name =
        (entries.lookup name).or ((names.put other a).lookup name) := ih h.2
    by_cases hname : name = other
    · -- The name does not come again, so that what has been put under it stays.
      subst hname
      have hnone : entries.lookup name = none := by
        rw [List.lookup_eq_none_iff]
        intro entry hentry
        refine bne_iff_ne.2 fun heq => h.1 ?_
        exact heq ▸ List.mem_map.2 ⟨entry, hentry, rfl⟩
      rw [hrest, hnone, lookup_put_self, List.lookup_cons_self]
      rfl
    · rw [hrest, lookup_put_of_ne hname, List.lookup_cons, beq_false_of_ne hname]

theorem lookup_eq_some_iff_mem {names : Names α} (h : (names.map Prod.fst).Nodup) {name : String}
    {a : α} : names.lookup name = some a ↔ (name, a) ∈ names := by
  induction names with
  | nil => exact ⟨nofun, nofun⟩
  | cons entry names ih =>
    obtain ⟨other, b⟩ := entry
    rw [List.map_cons, List.nodup_cons] at h
    by_cases hname : name = other
    · subst hname
      have hother : (name, a) ∉ names := fun hmem => h.1 (List.mem_map.2 ⟨_, hmem, rfl⟩)
      rw [List.lookup_cons_self, List.mem_cons, or_iff_left hother]
      exact ⟨fun heq => Option.some.inj heq ▸ rfl, fun heq => (Prod.mk.inj heq).2 ▸ rfl⟩
    · have hother : (name, a) ≠ (other, b) := fun heq => hname (Prod.mk.inj heq).1
      rw [List.lookup_cons, beq_false_of_ne hname, List.mem_cons, or_iff_right hother]
      exact ih h.2

end Names

namespace Registry

variable {σ : Type} {interface : String} {entries : List (String × Property σ)}

theorem register_singleton (interface name : String) (property : Property σ)
    (properties : Names (Property σ)) :
    register ⟨[(interface, properties)]⟩ interface name property =
      ⟨[(interface, properties.put name property)]⟩ := by
  simp [register, Names.put]

theorem foldl_register (interface : String) (properties : Names (Property σ))
    (entries : List (String × Property σ)) :
    entries.foldl (fun (registry : Registry σ) (name, property) =>
        registry.register interface name property) ⟨[(interface, properties)]⟩ =
      ⟨[(interface, properties.putAll entries)]⟩ := by
  induction entries generalizing properties with
  | nil => rfl
  | cons entry entries ih =>
    obtain ⟨name, property⟩ := entry
    have hrest := ih (properties.put name property)
    rw [← register_singleton] at hrest
    exact hrest

/-- A registry that is made from a list has one interface, with what is in the list. -/
theorem interfaces_ofList (h : entries ≠ []) :
    (ofList interface entries).interfaces = [(interface, Names.putAll [] entries)] := by
  cases entries with
  | nil => exact absurd rfl h
  | cons entry entries =>
    have hofList : ofList interface (entry :: entries) =
        ⟨[(interface, (Names.put entry.1 entry.2 []).putAll entries)]⟩ :=
      foldl_register interface _ entries
    rw [hofList]
    rfl

theorem find_ofList_self (h : entries ≠ []) (hnodup : (entries.map Prod.fst).Nodup)
    (name : String) :
    (ofList interface entries).find interface name =
      (entries.lookup name).elim (.error (.unknownProperty name)) .ok := by
  have hlookup : (Names.putAll [] entries).lookup name = entries.lookup name := by
    rw [Names.lookup_putAll hnodup, List.lookup_nil, Option.or_none]
  rw [find, interfaces_ofList h, List.lookup_cons_self]
  simp only [hlookup]
  cases entries.lookup name <;> rfl

theorem find_ofList_of_ne (h : entries ≠ []) {other : String} (hother : other ≠ interface)
    (name : String) :
    (ofList interface entries).find other name = .error (.unknownInterface other) := by
  rw [find, interfaces_ofList h, List.lookup_cons, beq_false_of_ne hother]
  rfl

/-- Reading properties gives their values, with their names, as long as it changes nothing. -/
theorem run_readAll {properties : Names (Property σ)} {s : σ}
    (h : ∀ entry ∈ properties, (entry.2.read.run s).2 = s) :
    (readAll properties).run s =
      (properties.map fun entry => (entry.1, (entry.2.read.run s).1), s) := by
  induction properties with
  | nil => rfl
  | cons entry properties ih =>
    obtain ⟨name, property⟩ := entry
    have hread : (property.read.run s).2 = s := h _ List.mem_cons_self
    have hrest := ih fun entry hentry => h entry (List.mem_cons_of_mem _ hentry)
    rw [readAll, Stepped.run_bind, hread, Stepped.run_bind, hrest]
    rfl

theorem run_getAll_ofList (h : entries ≠ []) (hnodup : (entries.map Prod.fst).Nodup) {s : σ}
    (hread : ∀ entry ∈ entries, (entry.2.read.run s).2 = s) :
    ∃ values, ((ofList interface entries).getAll interface).run s = (.ok values, s) ∧
      values.Perm (entries.map fun entry => (entry.1, (entry.2.read.run s).1)) := by
  have hperm : (Names.putAll [] entries).Perm entries := Names.perm_putAll hnodup
  refine ⟨(Names.putAll [] entries).map fun entry => (entry.1, (entry.2.read.run s).1), ?_,
    hperm.map _⟩
  have hall := run_readAll fun entry hentry => hread entry (hperm.mem_iff.1 hentry)
  rw [getAll, interfaces_ofList h, List.lookup_cons_self]
  simp only [Stepped.run_bind, hall, Stepped.run_pure]

theorem getAll_ofList_of_ne (h : entries ≠ []) {other : String} (hother : other ≠ interface) :
    (ofList interface entries).getAll other = pure (.error (.unknownInterface other)) := by
  rw [getAll, interfaces_ofList h, List.lookup_cons, beq_false_of_ne hother]
  rfl

end Registry

end VpnTray.Bus
