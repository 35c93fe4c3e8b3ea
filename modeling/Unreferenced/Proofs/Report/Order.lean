import Unreferenced.Proofs.Identity.Coherence
import Unreferenced.Proofs.Report.Entries

/-!
# The order of a report

A report has an entry for each resource of a result, however often and in whatever spellings
the result lists it.  The entries are in ascending order, and those of equal identities in the
order of the result (`Report.keeps_every_entry`).  So the order of the result makes no
difference if no two of its resources are equal, and a result that is in ascending order
already is reported as it is.
-/

namespace Unreferenced

/-! ## Labels -/

/-- A store knows the same of equal identities. -/
theorem Store.label?_congr (s : Store) {i j : Identity} (same : (i == j) = true) :
    s.label? i = s.label? j := by
  have found : s.find? i = s.find? j := by
    rw [find?, find?]
    congr 1
    funext r
    rw [BEq.congr_right same]
  rw [label?, label?, found]

namespace Report

variable (label? : Identity → Option String)

/-! ## Entries in order -/

theorem resources_eq_sorted (unused : UnusedResources) :
    (ofUnused label? unused).entries.map (·.resource) = Identity.sorted unused.resources := by
  rw [ofUnused, List.map_map]
  exact List.map_id _

theorem label_of_mem_entries {unused : UnusedResources} {e : ReportEntry}
    (member : e ∈ (ofUnused label? unused).entries) :
    e.label = (label? e.resource).getD "" := by
  rw [ofUnused] at member
  obtain ⟨i, -, rfl⟩ := List.mem_map.mp member
  rfl

/-- Resources of which no two are equal are reported alike in whatever order they come. -/
theorem ofUnused_eq_of_perm {unused : UnusedResources} {resources : List Identity}
    (distinct : unused.resources.Pairwise fun a b => (a == b) = false)
    (perm : resources.Perm unused.resources) :
    ofUnused label? { unused with resources := resources } = ofUnused label? unused := by
  have same : Identity.sorted resources = Identity.sorted unused.resources :=
    Identity.eq_sorted_of_perm distinct ((Identity.sorted_perm resources).trans perm)
      (Identity.sorted_pairwise resources)
  rw [ofUnused, ofUnused, same]

/-- **A report keeps every entry.**  For any resources, in whatever order and with whatever
repetitions and variants in letter case, the entries of the report name the same resources in
the same spellings, in ascending order, and equal identities in the order of the result.  Each
entry has the label that is given for its resource, or none, and labels from a store do not
depend on letter case.  The rest of the result is kept.  If no two of the resources are equal,
then from the same resources in another order the same report is made, with the same text and
the same JSON.  And the report on a scan that has completed, whatever time it took, lists the
resources as the scan does. -/
theorem keeps_every_entry (unused : UnusedResources) :
    let report := ofUnused label? unused
    let listed := report.entries.map (·.resource)
    listed.Perm unused.resources ∧
    listed.Pairwise (fun a b => (Identity.order a b).isLE = true) ∧
    (∀ i, listed.filter (· == i) = unused.resources.filter (· == i)) ∧
    (∀ e ∈ report.entries, e.label = (label? e.resource).getD "") ∧
    (∀ store : Store, label? = store.label? → ∀ e ∈ report.entries, ∀ e' ∈ report.entries,
      (e.resource == e'.resource) = true → e.label = e'.label) ∧
    (report.target = unused.target ∧ report.stats = unused.stats ∧
      report.duration = unused.duration) ∧
    (unused.resources.Pairwise (fun a b => (a == b) = false) →
      ∀ resources, resources.Perm unused.resources →
        let again := ofUnused label? { unused with resources := resources }
        again = report ∧ again.text = report.text ∧ again.jsonText = report.jsonText) ∧
    ∀ su duration, Scan.Completes su { unused with duration := duration } →
      listed = unused.resources := by
  intro report listed
  have sorts : listed = Identity.sorted unused.resources := resources_eq_sorted label? unused
  refine ⟨?_, ?_, ?_, fun e => label_of_mem_entries label?, ?_, ⟨rfl, rfl, rfl⟩, ?_, ?_⟩
  · rw [sorts]
    exact Identity.sorted_perm unused.resources
  · rw [sorts]
    exact Identity.sorted_pairwise unused.resources
  · rw [sorts]
    exact Identity.filter_sorted unused.resources
  · rintro store rfl e member e' member' same
    rw [label_of_mem_entries _ member, label_of_mem_entries _ member', store.label?_congr same]
  · intro distinct resources perm again
    have same : again = report := ofUnused_eq_of_perm label? distinct perm
    exact ⟨same, congrArg text same, congrArg jsonText same⟩
  · intro su duration completes
    exact @resources_ofUnused label? unused completes.ascending

/-- Two spellings of the ring with an axe between them. -/
def ringsAndAxe : UnusedResources :=
  ⟨⟨"ITM"⟩, [⟨"RING", ⟨"ITM"⟩⟩, ⟨"Axe", ⟨"ITM"⟩⟩, ⟨"Ring", ⟨"ITM"⟩⟩], ScanStats.zero, Duration.zero⟩

/-- Of these, both spellings of the ring are reported in their order.  An axe and a ring are
reported alike in either order, and the ring that a scan finds is reported as found. -/
theorem keeps_every_entry_rings :
    ((ofUnused ringCorpus.store.label? ringsAndAxe).entries.map (·.resource)).filter
        (· == ⟨"ring", ⟨"ITM"⟩⟩) = [⟨"RING", ⟨"ITM"⟩⟩, ⟨"Ring", ⟨"ITM"⟩⟩] ∧
    ofUnused ringCorpus.store.label?
        { ringsAndAxe with resources := [⟨"Axe", ⟨"ITM"⟩⟩, ⟨"Ring", ⟨"ITM"⟩⟩] } =
      ofUnused ringCorpus.store.label?
        { ringsAndAxe with resources := [⟨"Ring", ⟨"ITM"⟩⟩, ⟨"Axe", ⟨"ITM"⟩⟩] } ∧
    ∃ unused, Scan.Completes ringSetup unused ∧
      (ofUnused ringCorpus.store.label? unused).entries.map (·.resource) =
        [⟨"Ring", ⟨"ITM"⟩⟩] := by
  obtain ⟨-, -, stable, -⟩ := keeps_every_entry ringCorpus.store.label? ringsAndAxe
  obtain ⟨-, -, -, -, -, -, reordered, -⟩ := keeps_every_entry ringCorpus.store.label?
    { ringsAndAxe with resources := [⟨"Ring", ⟨"ITM"⟩⟩, ⟨"Axe", ⟨"ITM"⟩⟩] }
  obtain ⟨unused, completes, found⟩ := completes_ring
  obtain ⟨-, -, -, -, -, -, -, asFound⟩ := keeps_every_entry ringCorpus.store.label? unused
  refine ⟨(stable _).trans rfl, (reordered (by decide) _ (.swap _ _ _)).1, unused, completes, ?_⟩
  rw [asFound ringSetup unused.duration completes, found]

end Report
end Unreferenced
