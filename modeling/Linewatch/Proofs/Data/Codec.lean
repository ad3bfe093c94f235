import Linewatch.Data.Codec

namespace Linewatch

namespace Record

variable {dialect : Dialect} {names : List String} {members : List (String × Datum)}

theorem of?_record (hnames : members.map (·.1) = names) (hnodup : names.Nodup) :
    of? dialect names (.record members) = some ⟨false, members⟩ := by
  have hall : (members.filter fun m => names.contains m.1) = members := by
    refine List.filter_eq_self.mpr fun m hm => ?_
    rw [List.contains_iff_mem, ← hnames]
    exact List.mem_map_of_mem hm
  simp only [of?, Datum.record, hall, hnames, hnodup, ↓reduceIte]

theorem of?_cons_of_notMem {name : String} (hname : name ∉ names) (d : Datum) :
    of? dialect names (.record ((name, d) :: members)) =
      of? dialect names (.record members) := by
  have hskip : names.contains name = false := by
    rw [← Bool.not_eq_true, List.contains_iff_mem]
    exact hname
  simp only [of?, Datum.record, List.filter_cons, hskip, Bool.false_eq_true, ↓reduceIte]

variable {inOrder : Bool} {name other : String} {d : Datum} {fields : List (String × Datum)}

theorem get?_cons_of_ne (h : name ≠ other) :
    get? ⟨inOrder, (other, d) :: fields⟩ name = get? ⟨inOrder, fields⟩ name := by
  rw [get?, List.lookup_cons, beq_false_of_ne h]
  rfl

@[simp] theorem required?_cons_self (take : Datum → Option α) :
    required? ⟨inOrder, (name, d) :: fields⟩ name take = take d := by
  rw [required?, get?, List.lookup_cons_self, Option.bind_some]

@[simp] theorem required?_cons_of_ne (h : name ≠ other) (take : Datum → Option α) :
    required? ⟨inOrder, (other, d) :: fields⟩ name take = required? ⟨inOrder, fields⟩ name take := by
  rw [required?, get?_cons_of_ne h, required?]

@[simp] theorem nullable?_cons_self (take : Datum → Option α) :
    nullable? ⟨inOrder, (name, d) :: fields⟩ name take = d.nullable? take := by
  rw [nullable?, get?, List.lookup_cons_self]

@[simp] theorem nullable?_cons_of_ne (h : name ≠ other) (take : Datum → Option α) :
    nullable? ⟨inOrder, (other, d) :: fields⟩ name take = nullable? ⟨inOrder, fields⟩ name take := by
  rw [nullable?, get?_cons_of_ne h, nullable?]

end Record

namespace Datum

theorem count?_ofNat {n : Nat} (hn : n < UInt64.size) : (ofNat n).count? = some n := by
  have h : (n : Int) < Int.pow 2 64 := Int.ofNat_lt.mpr hn
  rw [ofNat, count?, if_pos ⟨Int.natCast_nonneg n, h⟩, Int.toNat_natCast]

theorem mapM_map_eq_some {write : α → β} {take : β → Option γ} {read : α → γ}
    {l : List α} (h : ∀ a ∈ l, take (write a) = some (read a)) :
    (l.map write).mapM take = some (l.map read) := by
  induction l with
  | nil => rfl
  | cons a l ih =>
    have ha := h a List.mem_cons_self
    have hl := ih fun b hb => h b (List.mem_cons_of_mem a hb)
    rw [List.map_cons, List.mapM_cons, ha, hl]
    rfl

theorem listOf?_map {write : α → Datum} {take : Datum → Option α} {l : List α}
    (h : ∀ a ∈ l, take (write a) = some a) : (list (l.map write)).listOf? take = some l := by
  have hl : ∀ a ∈ l, take (write a) = some (id a) := h
  rw [listOf?, mapM_map_eq_some hl, List.map_id]

theorem nullable?_option {write : α → Datum} {take : Datum → Option α} (a : Option α)
    (h : ∀ a, take (write a) = some a) (hnull : ∀ a, write a ≠ .null) :
    (option write a).nullable? take = some a := by
  cases a with
  | none => rfl
  | some a =>
    rw [option, nullable?, h]
    · rfl
    · exact hnull a

end Datum

@[simp] theorem Severity.ofDatum?_toDatum (dialect : Dialect) (s : Severity) :
    Severity.ofDatum? dialect s.toDatum = some s := by
  cases s <;> rfl

@[simp] theorem Catalog.ofDatum?_toDatum (dialect : Dialect) (c : Catalog) :
    Catalog.ofDatum? dialect c.toDatum = some c := by
  cases c <;> rfl

variable (dialect : Dialect)

theorem Finding.ofDatum?_toDatum {f : Finding} (hline : f.line < UInt64.size) :
    Finding.ofDatum? dialect f.toDatum = some f := by
  simp only [Finding.ofDatum?, Option.bind_eq_bind, Option.bind_eq_some_iff]
  refine ⟨_, Record.of?_record rfl (by decide), f.catalog, ?_, f.rule, ?_, f.severity, ?_,
    f.message, ?_, f.line, ?_, f.code, ?_, f.description, ?_, rfl⟩
  all_goals simp [Datum.text?, Datum.count?_ofNat hline]

theorem DocumentReport.ofDatum?_toDatum {d : DocumentReport}
    (hlines : ∀ f ∈ d.findings, f.line < UInt64.size) :
    DocumentReport.ofDatum? dialect d.toDatum = some d := by
  have hfindings := Datum.listOf?_map fun f hf =>
    Finding.ofDatum?_toDatum dialect (hlines f hf)
  simp only [DocumentReport.ofDatum?, Option.bind_eq_bind, Option.bind_eq_some_iff]
  refine ⟨_, Record.of?_record rfl (by decide), d.source, ?_, d.findings, ?_, rfl⟩
  all_goals simp [Datum.text?, hfindings]

def Statistics.counts (s : Statistics) : List Nat :=
  [s.total, s.vulnerabilities, s.sensitive, s.critical, s.high, s.medium, s.low, s.info]

theorem Statistics.ofDatum?_toDatum {s : Statistics} (hcounts : ∀ n ∈ s.counts, n < UInt64.size) :
    Statistics.ofDatum? dialect s.toDatum = some s := by
  have hcount : ∀ n ∈ s.counts, (Datum.ofNat n).count? = some n :=
    fun n hn => Datum.count?_ofNat (hcounts n hn)
  simp only [counts, List.forall_mem_cons] at hcount
  simp only [Statistics.ofDatum?, Option.bind_eq_bind, Option.bind_eq_some_iff]
  refine ⟨_, Record.of?_record rfl (by decide), s.total, ?_, s.vulnerabilities, ?_, s.sensitive, ?_,
    s.critical, ?_, s.high, ?_, s.medium, ?_, s.low, ?_, s.info, ?_, rfl⟩
  all_goals simp [hcount]

theorem Verdict.ofDatum?_toDatum {v : Verdict} (htotal : v.totalFindings < UInt64.size)
    (heffective : v.effectiveFindings < UInt64.size) :
    Verdict.ofDatum? dialect v.toDatum = some v := by
  have hhighest := Datum.nullable?_option v.highestSeverity (Severity.ofDatum?_toDatum dialect)
    (by rintro a ⟨⟩)
  simp only [Verdict.ofDatum?, Option.bind_eq_bind, Option.bind_eq_some_iff]
  refine ⟨_, Record.of?_record rfl (by decide), v.pass, ?_, v.totalFindings, ?_,
    v.effectiveFindings, ?_, v.highestSeverity, ?_, v.failThreshold, ?_, rfl⟩
  all_goals simp [Datum.flag?, Datum.count?_ofNat htotal, Datum.count?_ofNat heffective, hhighest]

/-- Whether the line numbers and counts of a report are of 64 bits. -/
structure Report.Fits (r : Report) : Prop where
  lines : ∀ f ∈ r.findings, f.line < UInt64.size
  counts : ∀ n ∈ r.statistics.counts, n < UInt64.size
  total : r.verdict.totalFindings < UInt64.size
  effective : r.verdict.effectiveFindings < UInt64.size

theorem Report.ofDatum?_toDatum {r : Report} (hr : r.Fits) :
    Report.ofDatum? dialect r.toDatum = some r := by
  have hdocuments := Datum.listOf?_map fun d hd =>
    DocumentReport.ofDatum?_toDatum dialect fun f hf =>
      hr.lines f (List.mem_flatMap_of_mem hd hf)
  have hstatistics := Statistics.ofDatum?_toDatum dialect hr.counts
  have hverdict := Verdict.ofDatum?_toDatum dialect hr.total hr.effective
  simp only [Report.ofDatum?, Option.bind_eq_bind, Option.bind_eq_some_iff]
  refine ⟨_, Record.of?_record rfl (by decide), r.documents, ?_, r.statistics, ?_, r.verdict, ?_,
    rfl⟩
  all_goals simp [hdocuments, hstatistics, hverdict]

end Linewatch
