import Mathlib.Data.List.Sort
import Mathlib.Order.Defs.LinearOrder

/-!
# Time series

A series is a list of rows under strictly increasing keys.  New series are built from old
ones by keeping and rewriting rows (`filterMap`), by a loop that carries a state and writes
a value a row (`scan`), by looking back from every row (`rolling`), and by putting series
side by side on their common keys (`join`).  Rows that come in any order are sorted first,
and of the rows of one key the last is kept (`ofRows`).

The rules are about cutting a series off after a key (`upTo`).  All four commute with the
cut, so whatever is built from them reads nothing after the row it writes.
-/

/-- Rows under strictly increasing keys. -/
structure Series (κ ρ : Type*) [LinearOrder κ] where
  rows : List (κ × ρ)
  sorted : rows.Pairwise fun row later => row.1 < later.1

namespace Series

variable {κ ρ σ τ : Type*} [LinearOrder κ]

theorem eq_of_rows {series other : Series κ ρ} (hrows : series.rows = other.rows) :
    series = other := by
  cases series
  cases other
  simpa using hrows

instance [DecidableEq ρ] : DecidableEq (Series κ ρ) := fun series other =>
  decidable_of_iff (series.rows = other.rows) ⟨eq_of_rows, congrArg Series.rows⟩

def index (series : Series κ ρ) : List κ := series.rows.map Prod.fst

theorem sorted_index (series : Series κ ρ) : series.index.Pairwise (· < ·) :=
  List.pairwise_map.mpr series.sorted

/-- The first key is the least. -/
theorem le_of_head? {series : Series κ ρ} {first key : κ} (hfirst : series.index.head? = some first)
    (hkey : key ∈ series.index) : first ≤ key := by
  obtain ⟨rest, hrest⟩ := List.head?_eq_some_iff.mp hfirst
  have hsorted := series.sorted_index
  rw [hrest] at hsorted hkey
  rcases List.mem_cons.mp hkey with rfl | hkey
  · exact le_refl key
  · exact (List.rel_of_pairwise_cons hsorted hkey).le

/-- The last key is the greatest. -/
theorem le_of_getLast? {series : Series κ ρ} {last key : κ}
    (hlast : series.index.getLast? = some last) (hkey : key ∈ series.index) : key ≤ last := by
  obtain ⟨front, hfront⟩ := List.getLast?_eq_some_iff.mp hlast
  have hsorted := series.sorted_index
  rw [hfront] at hsorted hkey
  rcases List.mem_append.mp hkey with hkey | hkey
  · exact ((List.pairwise_append.mp hsorted).2.2 key hkey last (List.mem_singleton_self last)).le
  · exact (List.mem_singleton.mp hkey).le

/-- The row under a key. -/
def loc? (series : Series κ ρ) (key : κ) : Option ρ :=
  (series.rows.find? fun row => row.1 = key).map Prod.snd

/-- There is one row under a key. -/
theorem loc?_eq_some_iff {series : Series κ ρ} {key : κ} {row : ρ} :
    series.loc? key = some row ↔ (key, row) ∈ series.rows := by
  obtain ⟨rows, hsorted⟩ := series
  simp only [loc?]
  induction rows with
  | nil => simp
  | cons first rest ih =>
      obtain ⟨hlater, hrest⟩ := List.pairwise_cons.mp hsorted
      by_cases hfirst : first.1 = key
      · have hnot : (key, row) ∉ rest := by
          intro hmem
          have hlt := hlater (key, row) hmem
          rw [hfirst] at hlt
          exact lt_irrefl key hlt
        rw [List.find?_cons_of_pos (by simpa using hfirst), List.mem_cons, or_iff_left hnot]
        subst hfirst
        simp [Prod.ext_iff, eq_comm]
      · rw [List.find?_cons_of_neg (by simpa using hfirst), ih hrest, List.mem_cons]
        have hne : (key, row) ≠ first := by
          rintro rfl
          exact hfirst rfl
        exact (or_iff_right hne).symm

theorem mem_index_iff {series : Series κ ρ} {key : κ} :
    key ∈ series.index ↔ ∃ row, series.loc? key = some row := by
  simp only [index, List.mem_map, loc?_eq_some_iff]
  constructor
  · rintro ⟨row, hrow, rfl⟩
    exact ⟨row.2, hrow⟩
  · rintro ⟨row, hrow⟩
    exact ⟨(key, row), hrow, rfl⟩

/-! ## The cut -/

/-- The rows up to a key, the row of the key included. -/
def upTo (series : Series κ ρ) (cut : κ) : Series κ ρ where
  rows := series.rows.filter fun row => row.1 ≤ cut
  sorted := series.sorted.filter _

theorem loc?_upTo (series : Series κ ρ) {key cut : κ} (hkey : key ≤ cut) :
    (series.upTo cut).loc? key = series.loc? key := by
  have hsame : ∀ row : κ × ρ, (row.1 ≤ cut ∧ row.1 = key) ↔ row.1 = key := by
    intro row
    constructor
    · exact And.right
    · rintro rfl
      exact ⟨hkey, rfl⟩
  simp only [loc?, upTo, List.find?_filter, decide_eq_true_eq, hsame]

theorem mem_index_upTo {series : Series κ ρ} {key cut : κ} :
    key ∈ (series.upTo cut).index ↔ key ∈ series.index ∧ key ≤ cut := by
  simp only [index, upTo, List.mem_map, List.mem_filter, decide_eq_true_eq]
  constructor
  · rintro ⟨row, ⟨hrow, hle⟩, rfl⟩
    exact ⟨⟨row, hrow, rfl⟩, hle⟩
  · rintro ⟨⟨row, hrow, rfl⟩, hle⟩
    exact ⟨row, ⟨hrow, hle⟩, rfl⟩

theorem index_upTo (series : Series κ ρ) (cut : κ) :
    (series.upTo cut).index = series.index.filter fun key => key ≤ cut := by
  simp only [index, upTo, List.filter_map]
  rfl

theorem upTo_eq_self {series : Series κ ρ} {cut : κ} (hearly : ∀ key ∈ series.index, key ≤ cut) :
    series.upTo cut = series := by
  refine eq_of_rows (List.filter_eq_self.mpr fun row hrow => ?_)
  exact decide_eq_true (hearly row.1 (List.mem_map_of_mem hrow))

theorem upTo_upTo (series : Series κ ρ) (cut : κ) : (series.upTo cut).upTo cut = series.upTo cut :=
  upTo_eq_self fun _ hkey => (mem_index_upTo.mp hkey).2

/-- Past the cut there is nothing left to keep. -/
theorem filter_eq_nil_of_lt {rows : List (κ × ρ)} {cut : κ} (hlater : ∀ row ∈ rows, cut < row.1) :
    (rows.filter fun row => row.1 ≤ cut) = [] := by
  refine List.filter_eq_nil_iff.mpr fun row hrow => ?_
  simpa using hlater row hrow

/-- A series is what is there up to a key, and what comes after it. -/
theorem rows_split (series : Series κ ρ) (cut : κ) :
    series.rows = (series.upTo cut).rows ++ series.rows.filter fun row => cut < row.1 := by
  obtain ⟨rows, hsorted⟩ := series
  simp only [upTo]
  induction rows with
  | nil => rfl
  | cons row rest ih =>
      obtain ⟨hlater, hrest⟩ := List.pairwise_cons.mp hsorted
      by_cases hrow : row.1 ≤ cut
      · have hnot : ¬ cut < row.1 := not_lt.mpr hrow
        simpa [hrow, hnot] using ih hrest
      · -- the first row is past the cut, so all of them are
        have hcut : cut < row.1 := not_le.mp hrow
        have hafter : ∀ later ∈ row :: rest, cut < later.1 := by
          intro later hmem
          rcases List.mem_cons.mp hmem with rfl | hmem
          · exact hcut
          · exact hcut.trans (hlater later hmem)
        have hall : ((row :: rest).filter fun row => cut < row.1) = row :: rest :=
          List.filter_eq_self.mpr fun later hmem => decide_eq_true (hafter later hmem)
        rw [filter_eq_nil_of_lt hafter, hall, List.nil_append]

/-- The first key up to a cut is the first key. -/
theorem head?_of_upTo {series : Series κ ρ} {first cut : κ}
    (hfirst : (series.upTo cut).index.head? = some first) : series.index.head? = some first := by
  rw [index, series.rows_split cut, List.map_append, List.head?_append]
  change ((series.upTo cut).index.head?.or _) = some first
  rw [hfirst, Option.some_or]

/-- The first row after a key. -/
theorem rows_next {series : Series κ ρ} {past next : κ} (hpast : past < next)
    (hnext : next ∈ series.index) (hbetween : ∀ key ∈ series.index, key < next → key ≤ past) :
    ∃ row rest, series.loc? next = some row ∧
      series.rows = (series.upTo past).rows ++ (next, row) :: rest := by
  obtain ⟨row, hrow⟩ := mem_index_iff.mp hnext
  have hmem := loc?_eq_some_iff.mp hrow
  have hsplit := series.rows_split past
  have hlate : (next, row) ∈ series.rows.filter fun row => past < row.1 :=
    List.mem_filter.mpr ⟨hmem, decide_eq_true hpast⟩
  cases hrows : series.rows.filter (fun row => past < row.1) with
  | nil =>
      rw [hrows] at hlate
      cases hlate
  | cons first rest =>
      have hsorted : (first :: rest).Pairwise fun row later => row.1 < later.1 := by
        rw [← hrows]
        exact series.sorted.filter _
      have hfirst : first ∈ series.rows ∧ past < first.1 := by
        have hfirst : first ∈ series.rows.filter fun row => past < row.1 := by
          rw [hrows]
          exact List.mem_cons_self
        simpa using List.mem_filter.mp hfirst
      -- no key lies between, so the first later row is the one of `next`
      rw [hrows] at hlate
      rcases List.mem_cons.mp hlate with hsame | hrest
      · refine ⟨row, rest, hrow, ?_⟩
        rw [hsame, ← hrows]
        exact hsplit
      · have hbefore := (List.pairwise_cons.mp hsorted).1 (next, row) hrest
        have hle := hbetween first.1 (List.mem_map_of_mem hfirst.1) hbefore
        exact absurd hfirst.2 (not_lt.mpr hle)

/-! ## Row by row -/

/-- The rows of some keys. -/
def select (series : Series κ ρ) (keep : κ → Bool) : Series κ ρ where
  rows := series.rows.filter fun row => keep row.1
  sorted := series.sorted.filter _

theorem mem_index_select {series : Series κ ρ} {keep : κ → Bool} {key : κ} :
    key ∈ (series.select keep).index ↔ key ∈ series.index ∧ keep key = true := by
  simp only [index, select, List.mem_map, List.mem_filter]
  constructor
  · rintro ⟨row, ⟨hrow, hkeep⟩, rfl⟩
    exact ⟨⟨row, hrow, rfl⟩, hkeep⟩
  · rintro ⟨⟨row, hrow, rfl⟩, hkeep⟩
    exact ⟨row, ⟨hrow, hkeep⟩, rfl⟩

theorem upTo_select (series : Series κ ρ) (keep : κ → Bool) (cut : κ) :
    (series.select keep).upTo cut = (series.upTo cut).select keep := by
  refine eq_of_rows ?_
  simp only [upTo, select, List.filter_filter, Bool.and_comm]

/-- The rows `f` keeps, rewritten. -/
def filterMap (series : Series κ ρ) (f : κ → ρ → Option σ) : Series κ σ where
  rows := series.rows.filterMap fun row => (f row.1 row.2).map fun value => (row.1, value)
  sorted := by
    refine List.pairwise_filterMap.mpr (series.sorted.imp ?_)
    rintro row later hlt kept hkept kept' hkept'
    obtain ⟨value, -, rfl⟩ := Option.map_eq_some_iff.mp hkept
    obtain ⟨value', -, rfl⟩ := Option.map_eq_some_iff.mp hkept'
    exact hlt

theorem loc?_filterMap (series : Series κ ρ) (f : κ → ρ → Option σ) (key : κ) :
    (series.filterMap f).loc? key = (series.loc? key).bind (f key) := by
  refine Option.ext fun value => ?_
  rw [loc?_eq_some_iff, Option.bind_eq_some_iff]
  simp only [filterMap, List.mem_filterMap, Option.map_eq_some_iff, Prod.mk.injEq, Prod.exists,
    loc?_eq_some_iff]
  constructor
  · rintro ⟨key', row, hrow, value, hvalue, rfl, rfl⟩
    exact ⟨row, hrow, hvalue⟩
  · rintro ⟨row, hrow, hvalue⟩
    exact ⟨key, row, hrow, value, hvalue, rfl, rfl⟩

theorem loc?_select (series : Series κ ρ) {keep : κ → Bool} {key : κ} (hkeep : keep key = true) :
    (series.select keep).loc? key = series.loc? key := by
  refine Option.ext fun row => ?_
  simp only [loc?_eq_some_iff, select, List.mem_filter, hkeep, and_true]

theorem upTo_filterMap (series : Series κ ρ) (f : κ → ρ → Option σ) (cut : κ) :
    (series.filterMap f).upTo cut = (series.upTo cut).filterMap f := by
  refine eq_of_rows ?_
  simp only [upTo, filterMap, List.filter_filterMap, List.filterMap_filter]
  refine List.filterMap_congr fun row _ => ?_
  by_cases hrow : row.1 ≤ cut
  · cases f row.1 row.2 <;> simp [hrow]
  · cases f row.1 row.2 <;> simp [hrow, not_le.mp hrow]

/-! ## Carrying a state -/

/-- A loop over the rows that writes one value a row. -/
def scanRows (step : τ → κ × ρ → τ × σ) : τ → List (κ × ρ) → List (κ × σ)
  | _, [] => []
  | state, row :: rest => (row.1, (step state row).2) :: scanRows step (step state row).1 rest

omit [LinearOrder κ] in
theorem map_fst_scanRows (step : τ → κ × ρ → τ × σ) (state : τ) (rows : List (κ × ρ)) :
    (scanRows step state rows).map Prod.fst = rows.map Prod.fst := by
  induction rows generalizing state with
  | nil => rfl
  | cons row rest ih => simp [scanRows, ih]

omit [LinearOrder κ] in
theorem key_of_mem_scanRows {step : τ → κ × ρ → τ × σ} {state : τ} {rows : List (κ × ρ)}
    {written : κ × σ} (hwritten : written ∈ scanRows step state rows) :
    ∃ row ∈ rows, row.1 = written.1 := by
  have hkey : written.1 ∈ rows.map Prod.fst := by
    rw [← map_fst_scanRows step state]
    exact List.mem_map_of_mem hwritten
  exact List.mem_map.mp hkey

omit [LinearOrder κ] in
theorem scanRows_append (step : τ → κ × ρ → τ × σ) (state : τ) (rows later : List (κ × ρ)) :
    scanRows step state (rows ++ later) = scanRows step state rows ++
      scanRows step (rows.foldl (fun state row => (step state row).1) state) later := by
  induction rows generalizing state with
  | nil => rfl
  | cons row rest ih => simp only [List.cons_append, scanRows, ih, List.foldl_cons]

omit [LinearOrder κ] in
/-- What every round of a loop preserves of its state and of all it has written, the loop does. -/
theorem scanRows_induct {α : Type*} (step : τ → κ × ρ → τ × σ) (written : σ → List α)
    (rows : List (κ × ρ)) (state : τ) {motive : τ → List α → Prop} {values : List α}
    (hround : ∀ state values, ∀ row ∈ rows, motive state values →
      motive (step state row).1 (values ++ written (step state row).2))
    (hstart : motive state values) :
    motive (rows.foldl (fun state row => (step state row).1) state)
      (values ++ (scanRows step state rows).flatMap fun row => written row.2) := by
  induction rows generalizing state values with
  | nil =>
      rw [scanRows, List.flatMap_nil, List.append_nil]
      exact hstart
  | cons row rest ih =>
      have hrest := ih (step state row).1 (fun state values later hlater => hround state values later
        (List.mem_cons_of_mem row hlater)) (hround state values row List.mem_cons_self hstart)
      rw [List.append_assoc] at hrest
      exact hrest

/-- The series a loop writes. -/
def scan (series : Series κ ρ) (step : τ → κ × ρ → τ × σ) (state : τ) : Series κ σ where
  rows := scanRows step state series.rows
  sorted := by
    have hkeys : (series.rows.map Prod.fst).Pairwise (· < ·) :=
      List.pairwise_map.mpr series.sorted
    rw [← map_fst_scanRows step state] at hkeys
    exact List.pairwise_map.mp hkeys

private theorem scanRows_filter {step early : τ → κ × ρ → τ × σ} {cut : κ}
    (hvalue : ∀ state row, row.1 ≤ cut → (early state row).2 = (step state row).2)
    (hnext : ∀ state row, row.1 < cut → (early state row).1 = (step state row).1)
    (state : τ) {rows : List (κ × ρ)}
    (hsorted : rows.Pairwise fun row later => row.1 < later.1) :
    scanRows early state (rows.filter fun row => row.1 ≤ cut)
      = (scanRows step state rows).filter fun row => row.1 ≤ cut := by
  induction rows generalizing state with
  | nil => rfl
  | cons row rest ih =>
      obtain ⟨hlater, hrest⟩ := List.pairwise_cons.mp hsorted
      have hnone : ∀ state', cut ≤ row.1 →
          (scanRows step state' rest).filter (fun row => row.1 ≤ cut) = [] := by
        intro state' hcut
        refine filter_eq_nil_of_lt fun written hwritten => ?_
        obtain ⟨later, hmem, hkey⟩ := key_of_mem_scanRows hwritten
        rw [← hkey]
        exact hcut.trans_lt (hlater later hmem)
      have hempty : cut ≤ row.1 → (rest.filter fun row => row.1 ≤ cut) = [] := by
        intro hcut
        exact filter_eq_nil_of_lt fun later hmem => hcut.trans_lt (hlater later hmem)
      rcases lt_trichotomy row.1 cut with hlt | heq | hgt
      · have hrow : decide (row.1 ≤ cut) = true := decide_eq_true hlt.le
        simp only [List.filter_cons, scanRows, hrow, if_true]
        rw [hvalue state row hlt.le, hnext state row hlt, ih _ hrest]
      · -- the row of the cut is the last one left
        have hrow : decide (row.1 ≤ cut) = true := decide_eq_true heq.le
        simp only [List.filter_cons, scanRows, hrow, if_true]
        rw [hempty heq.ge, hnone _ heq.ge, hvalue state row heq.le]
        rfl
      · have hrow : ¬ decide (row.1 ≤ cut) = true := by simpa using hgt
        simp only [List.filter_cons, scanRows, if_neg hrow]
        rw [hempty hgt.le, hnone _ hgt.le]
        rfl

/-- What a loop writes under a key, from the rows before it and its row. -/
theorem loc?_scan {series : Series κ ρ} {step : τ → κ × ρ → τ × σ} {state : τ} {key : κ}
    {written : σ} (hwritten : (series.scan step state).loc? key = some written) :
    ∃ front row, series.loc? key = some row ∧
      (series.upTo key).rows = front ++ [(key, row)] ∧
      written = (step (front.foldl (fun state row => (step state row).1) state) (key, row)).2 := by
  have hmem := loc?_eq_some_iff.mp hwritten
  obtain ⟨⟨found, row⟩, hrow, hkey⟩ := key_of_mem_scanRows hmem
  obtain rfl : key = found := hkey.symm
  obtain ⟨front, rest, hrows⟩ := List.append_of_mem hrow
  refine ⟨front, row, loc?_eq_some_iff.mpr hrow, ?_, ?_⟩
  · have hsorted := series.sorted
    rw [hrows] at hsorted
    obtain ⟨-, hrest, hfront⟩ := List.pairwise_append.mp hsorted
    have hkept : (front.filter fun row => row.1 ≤ key) = front := by
      refine List.filter_eq_self.mpr fun earlier hearlier => ?_
      exact decide_eq_true (hfront earlier hearlier _ List.mem_cons_self).le
    change series.rows.filter _ = _
    rw [hrows, List.filter_append, hkept, List.filter_cons_of_pos (by simp),
      filter_eq_nil_of_lt (List.pairwise_cons.mp hrest).1]
  · have hhere : (series.scan step state).loc? key = some
        (step (front.foldl (fun state row => (step state row).1) state) (key, row)).2 := by
      rw [loc?_eq_some_iff]
      change _ ∈ scanRows step state series.rows
      rw [hrows, scanRows_append, scanRows]
      exact List.mem_append_right _ List.mem_cons_self
    exact Option.some.inj (hwritten.symm.trans hhere)

/-- What a loop writes right after a key depends on the rows up to the key and on the next. -/
theorem loc?_scan_next {series : Series κ ρ} (step : τ → κ × ρ → τ × σ) (state : τ)
    {past next : κ} (hpast : past < next) (hnext : next ∈ series.index)
    (hbetween : ∀ key ∈ series.index, key < next → key ≤ past) :
    (series.scan step state).loc? next = (series.loc? next).map fun row =>
      (step ((series.upTo past).rows.foldl (fun state row => (step state row).1) state)
        (next, row)).2 := by
  obtain ⟨row, rest, hrow, hrows⟩ := rows_next hpast hnext hbetween
  rw [hrow, Option.map_some, loc?_eq_some_iff]
  change _ ∈ scanRows step state series.rows
  rw [hrows, scanRows_append, scanRows]
  exact List.mem_append_right _ List.mem_cons_self

/-- What a loop writes up to a key depends on its rounds up to there, and on the states
they leave before it. -/
theorem upTo_scan_of_agree (series : Series κ ρ) {step early : τ → κ × ρ → τ × σ} {cut : κ}
    (hvalue : ∀ state row, row.1 ≤ cut → (early state row).2 = (step state row).2)
    (hnext : ∀ state row, row.1 < cut → (early state row).1 = (step state row).1) (state : τ) :
    (series.scan step state).upTo cut = (series.upTo cut).scan early state :=
  eq_of_rows (scanRows_filter hvalue hnext state series.sorted).symm

theorem upTo_scan (series : Series κ ρ) (step : τ → κ × ρ → τ × σ) (state : τ) (cut : κ) :
    (series.scan step state).upTo cut = (series.upTo cut).scan step state :=
  upTo_scan_of_agree series (fun _ _ _ => rfl) (fun _ _ _ => rfl) state

/-! ## Looking back -/

/-- A series that reads, at every row, this one from there back to the first row, the
newest row in front. -/
def rolling (series : Series κ ρ) (f : List (κ × ρ) → σ) : Series κ σ :=
  series.scan (fun past row => (row :: past, f (row :: past))) []

/-- Looking back from the rows up to a key sees those rows only. -/
theorem upTo_rolling (series : Series κ ρ) (f : List (κ × ρ) → σ) (cut : κ) :
    (series.rolling f).upTo cut = (series.upTo cut).rolling f :=
  upTo_scan series _ [] cut

/-! ## Rows in any order -/

/-- A way of sorting rows by their keys.  It may bring rows of one key in any order. -/
structure RowSort (κ ρ : Type*) [LinearOrder κ] where
  sort : List (κ × ρ) → List (κ × ρ)
  perm : ∀ rows, (sort rows).Perm rows
  sorted : ∀ rows, (sort rows).Pairwise fun row later => row.1 ≤ later.1

/-- Sorting by insertion leaves rows of one key as they came. -/
def RowSort.insertion : RowSort κ ρ where
  sort := List.insertionSort fun row later => row.1 ≤ later.1
  perm := List.perm_insertionSort _
  sorted rows := by
    have htotal : Std.Total fun row later : κ × ρ => row.1 ≤ later.1 :=
      ⟨fun row later => le_total row.1 later.1⟩
    have htrans : IsTrans (κ × ρ) fun row later => row.1 ≤ later.1 :=
      ⟨fun _ _ _ => le_trans⟩
    exact List.pairwise_insertionSort _ rows

/-- Of the rows of one key, the last. -/
def keepLast : List (κ × ρ) → List (κ × ρ)
  | [] => []
  | row :: rest =>
      if ∃ later ∈ rest, later.1 = row.1 then keepLast rest else row :: keepLast rest

theorem keepLast_sublist (rows : List (κ × ρ)) : (keepLast rows).Sublist rows := by
  induction rows with
  | nil => exact List.Sublist.refl _
  | cons row rest ih =>
      unfold keepLast
      split
      · exact ih.cons row
      · exact ih.cons_cons row

/-- No key is lost. -/
theorem exists_mem_keepLast {rows : List (κ × ρ)} {key : κ} :
    (∃ row ∈ keepLast rows, row.1 = key) ↔ ∃ row ∈ rows, row.1 = key := by
  constructor
  · rintro ⟨row, hrow, hkey⟩
    exact ⟨row, (keepLast_sublist rows).subset hrow, hkey⟩
  · induction rows with
    | nil => exact id
    | cons row rest ih =>
        rintro ⟨found, hfound, hkey⟩
        unfold keepLast
        split
        next hagain =>
          -- a later row has the key of this one, so the key is still in the rest
          rcases List.mem_cons.mp hfound with rfl | hfound
          · obtain ⟨later, hlater, hsame⟩ := hagain
            exact ih ⟨later, hlater, hsame.trans hkey⟩
          · exact ih ⟨found, hfound, hkey⟩
        next =>
          rcases List.mem_cons.mp hfound with rfl | hfound
          · exact ⟨found, List.mem_cons_self, hkey⟩
          · obtain ⟨kept, hkept, hsame⟩ := ih ⟨found, hfound, hkey⟩
            exact ⟨kept, List.mem_cons_of_mem row hkept, hsame⟩

/-- In sorted rows, the rows kept are strictly sorted. -/
theorem keepLast_sorted {rows : List (κ × ρ)}
    (hsorted : rows.Pairwise fun row later => row.1 ≤ later.1) :
    (keepLast rows).Pairwise fun row later => row.1 < later.1 := by
  induction rows with
  | nil => exact List.Pairwise.nil
  | cons row rest ih =>
      obtain ⟨hle, hrest⟩ := List.pairwise_cons.mp hsorted
      unfold keepLast
      split
      next => exact ih hrest
      next hlast =>
        refine List.pairwise_cons.mpr ⟨fun later hlater => ?_, ih hrest⟩
        have hmem : later ∈ rest := (keepLast_sublist rest).subset hlater
        have hne : row.1 ≠ later.1 := fun hsame => hlast ⟨later, hmem, hsame.symm⟩
        exact lt_of_le_of_ne (hle later hmem) hne

/-- The series of rows that come in any order. -/
def ofRows (order : RowSort κ ρ) (rows : List (κ × ρ)) : Series κ ρ where
  rows := keepLast (order.sort rows)
  sorted := keepLast_sorted (order.sorted rows)

theorem mem_index_ofRows {order : RowSort κ ρ} {rows : List (κ × ρ)} {key : κ} :
    key ∈ (ofRows order rows).index ↔ ∃ row ∈ rows, row.1 = key := by
  have hperm : (∃ row ∈ order.sort rows, row.1 = key) ↔ ∃ row ∈ rows, row.1 = key := by
    simp only [(order.perm rows).mem_iff]
  rw [← hperm, ← exists_mem_keepLast, index, List.mem_map]
  exact Iff.rfl

/-- Two series in one have the keys of both. -/
theorem mem_index_merge {order : RowSort κ ρ} {series other : Series κ ρ} {key : κ} :
    key ∈ (ofRows order (series.rows ++ other.rows)).index ↔
      key ∈ series.index ∨ key ∈ other.index := by
  rw [mem_index_ofRows]
  simp only [List.mem_append, or_and_right, exists_or, index, List.mem_map]

/-! ## Side by side -/

/-- The rows two series have on their common keys. -/
def join (series : Series κ ρ) (other : Series κ σ) : Series κ (ρ × σ) where
  rows := series.rows.filterMap fun row => (other.loc? row.1).map fun value =>
    (row.1, row.2, value)
  sorted := by
    refine List.pairwise_filterMap.mpr (series.sorted.imp ?_)
    rintro row later hlt joined hjoined joined' hjoined'
    obtain ⟨value, -, rfl⟩ := Option.map_eq_some_iff.mp hjoined
    obtain ⟨value', -, rfl⟩ := Option.map_eq_some_iff.mp hjoined'
    exact hlt

theorem loc?_join (series : Series κ ρ) (other : Series κ σ) (key : κ) :
    (series.join other).loc? key =
      (series.loc? key).bind fun row => (other.loc? key).map fun value => (row, value) := by
  refine Option.ext fun joined => ?_
  rw [loc?_eq_some_iff, Option.bind_eq_some_iff]
  simp only [join, List.mem_filterMap, Option.map_eq_some_iff, Prod.mk.injEq, Prod.exists,
    loc?_eq_some_iff]
  constructor
  · rintro ⟨key', row, hrow, value, hvalue, rfl, rfl⟩
    exact ⟨row, hrow, value, hvalue, rfl⟩
  · rintro ⟨row, hrow, value, hvalue, rfl⟩
    exact ⟨key, row, hrow, value, hvalue, rfl, rfl⟩

/-- The common rows up to a key are the common rows of what is there up to it. -/
theorem upTo_join (series : Series κ ρ) (other : Series κ σ) (cut : κ) :
    (series.join other).upTo cut = (series.upTo cut).join (other.upTo cut) := by
  refine eq_of_rows ?_
  simp only [upTo, join, List.filter_filterMap, List.filterMap_filter]
  refine List.filterMap_congr fun row _ => ?_
  have hloc : row.1 ≤ cut → (other.upTo cut).loc? row.1 = other.loc? row.1 :=
    fun hrow => other.loc?_upTo hrow
  by_cases hrow : row.1 ≤ cut
  · simp only [upTo] at hloc
    rw [hloc hrow]
    cases other.loc? row.1 <;> simp [hrow]
  · cases other.loc? row.1 <;> simp [hrow, not_le.mp hrow]

/-- A series beside any number of others, each under its name. -/
def joinAll (series : Series κ ρ) : List (τ × Series κ σ) → Series κ (ρ × List (τ × σ))
  | [] => series.filterMap fun _ row => some (row, [])
  | (name, other) :: others =>
      ((series.joinAll others).join other).filterMap fun _ row =>
        some (row.1.1, (name, row.2) :: row.1.2)

theorem upTo_joinAll (series : Series κ ρ) (others : List (τ × Series κ σ)) (cut : κ) :
    (series.joinAll others).upTo cut
      = (series.upTo cut).joinAll (others.map fun other => (other.1, other.2.upTo cut)) := by
  induction others with
  | nil => exact upTo_filterMap series _ cut
  | cons other others ih =>
      obtain ⟨name, other⟩ := other
      simp only [joinAll, List.map_cons]
      rw [upTo_filterMap, upTo_join, ih]

end Series
