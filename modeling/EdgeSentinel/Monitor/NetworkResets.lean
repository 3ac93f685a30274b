import EdgeSentinel.Monitor.NetworkTotals

/-!
# Counters of network interfaces that are reset

A counter starts again from 0 when its interface does. `calculate_network_speed` takes a total
that has become smaller for such a reset, and reports nothing then; but a total is the sum of the
counters of several interfaces.

## The model

* `NetDev.counterOf` — the counter of one interface, and `increase`, how far the counters of some
  interfaces have advanced, where one that went back counts 0.
* `ReportsIncreases` — the speeds stand for these increases.

## What is proved

* `difference_toNat` — what is reported is the increase of the total, or 0.
* `reportsIncreases_iff` — **the speeds** stand for the increases exactly if no interface went
  back while another one advanced.
-/

namespace EdgeSentinel.Monitor

open CLib Config Totals

/-! ### Increases -/

/-- The counter of the interface `name`. -/
def NetDev.counterOf (d : NetDev) (counter : InterfaceLine → ℤ) (name : Bytes) : ℤ :=
  totalOf InterfaceLine.name counter (· = name) d.interfaces

/-- `names` are the interfaces in the text that the configuration selects. -/
structure NetDev.Selects (d : NetDev) (config : AppConfig) (names : List Bytes) : Prop where
  /-- Each of them is listed once. -/
  nodup : names.Nodup
  /-- They are in the text, and selected. -/
  mem_iff : ∀ name, name ∈ names ↔
    networkInterfaceIsSelected config name ∧ ∃ i ∈ d.interfaces, i.name = name

/-- The sum of a counter over the selected interfaces is a number of 64 bits. -/
def NetDev.FitsTotal (d : NetDev) (config : AppConfig) (counter : InterfaceLine → ℤ) : Prop :=
  0 ≤ d.total config counter ∧ d.total config counter < 2 ^ 64

/-- How far the counters of the interfaces have advanced, from one reading to the next: one that
went back counts 0. -/
def increase (d d' : NetDev) (counter : InterfaceLine → ℤ) (names : List Bytes) : ℤ :=
  (names.map fun name => max (d'.counterOf counter name - d.counterOf counter name) 0).sum

/-- The speeds that are reported, times the time between, are the increases. -/
def ReportsIncreases (config : AppConfig) (d d' : NetDev) (elapsedSeconds : ℚ)
    (names : List Bytes) : Prop :=
  ∃ previous current download upload,
    readNetworkInfoFiltered config (some d.content) = some previous ∧
    readNetworkInfoFiltered config (some d'.content) = some current ∧
    calculateNetworkSpeed previous current elapsedSeconds =
      some ⟨.finite download, .finite upload⟩ ∧
    download * elapsedSeconds = increase d d' InterfaceLine.received names ∧
    upload * elapsedSeconds = increase d d' InterfaceLine.transmitted names

/-- No counter went back, or none advanced. -/
def OneDirection (d d' : NetDev) (counter : InterfaceLine → ℤ) (names : List Bytes) : Prop :=
  (∀ name ∈ names, d.counterOf counter name ≤ d'.counterOf counter name) ∨
    ∀ name ∈ names, d'.counterOf counter name ≤ d.counterOf counter name

variable {config : AppConfig} {d d' : NetDev} {names : List Bytes} {counter : InterfaceLine → ℤ}

/-- The total is the sum of the counters. -/
theorem NetDev.Selects.total_eq (h : d.Selects config names) (counter : InterfaceLine → ℤ) :
    d.total config counter = (names.map (d.counterOf counter)).sum :=
  totalOf_eq_sum h.nodup fun i hi =>
    ⟨fun hselected => (h.mem_iff i.name).mpr ⟨hselected, i, hi, rfl⟩,
      fun hname => ((h.mem_iff i.name).mp hname).1⟩

/-- **What is reported** is how far the total has advanced; it is the sum of the increases exactly
if the counters went one way. -/
theorem max_total_eq_increase_iff (h : d.Selects config names) (h' : d'.Selects config names)
    (counter : InterfaceLine → ℤ) :
    max (d'.total config counter - d.total config counter) 0 = increase d d' counter names ↔
      OneDirection d d' counter names := by
  have hsum : d'.total config counter - d.total config counter =
      (names.map fun name => d'.counterOf counter name - d.counterOf counter name).sum := by
    rw [h.total_eq, h'.total_eq, sum_map_sub]
  have hcut := sum_max_eq_iff
    (names.map fun name => d'.counterOf counter name - d.counterOf counter name)
  rw [List.map_map, List.forall_mem_map, List.forall_mem_map] at hcut
  unfold increase OneDirection
  rw [hsum, eq_comm]
  refine Iff.trans hcut (or_congr ?_ ?_)
  · exact forall₂_congr fun name _ => sub_nonneg
  · exact forall₂_congr fun name _ => sub_nonpos

/-! ### Speeds -/

/-- What `calculate_network_speed` makes of two totals. -/
theorem difference_toNat {previous current : ℤ} (hprevious : 0 ≤ previous ∧ previous < 2 ^ 64)
    (hcurrent : 0 ≤ current ∧ current < 2 ^ 64) :
    ((if UInt64.ofInt previous ≤ .ofInt current then UInt64.ofInt current - .ofInt previous
      else 0 : UInt64).toNat : ℤ) = max (current - previous) 0 := by
  have hp := toNat_ofInt_uint64 previous
  have hc := toNat_ofInt_uint64 current
  rw [Int.emod_eq_of_lt hprevious.1 hprevious.2] at hp
  rw [Int.emod_eq_of_lt hcurrent.1 hcurrent.2] at hc
  split_ifs with hle
  · rw [UInt64.toNat_sub_of_le _ _ hle]
    rw [UInt64.le_iff_toNat_le] at hle
    omega
  · rw [UInt64.le_iff_toNat_le] at hle
    rw [UInt64.toNat_zero]
    omega

/-- **The speeds** stand for what each of the interfaces has advanced, exactly if in neither
direction of the traffic a counter went back while another one advanced. -/
theorem reportsIncreases_iff (hcount : config.networkInterfaceCount.toNat ≤ maxNetworkInterfaces)
    (h : d.Selects config names) (h' : d'.Selects config names)
    (hrx : d.FitsTotal config InterfaceLine.received)
    (hrx' : d'.FitsTotal config InterfaceLine.received)
    (htx : d.FitsTotal config InterfaceLine.transmitted)
    (htx' : d'.FitsTotal config InterfaceLine.transmitted)
    {elapsedSeconds : ℚ} (helapsed : 0 < elapsedSeconds) :
    ReportsIncreases config d d' elapsedSeconds names ↔
      OneDirection d d' InterfaceLine.received names ∧
        OneDirection d d' InterfaceLine.transmitted names := by
  have hreceived := difference_toNat hrx hrx'
  have htransmitted := difference_toNat htx htx'
  rw [← max_total_eq_increase_iff h h', ← max_total_eq_increase_iff h h', ← hreceived,
    ← htransmitted]
  unfold ReportsIncreases
  rw [d.readNetworkInfoFiltered_eq config hcount, d'.readNetworkInfoFiltered_eq config hcount]
  have hspeed (x : ℕ) : (x : ℚ) / elapsedSeconds * elapsedSeconds = ((x : ℤ) : ℚ) := by
    rw [div_mul_cancel₀ _ helapsed.ne', Int.cast_natCast]
  constructor
  · rintro ⟨previous, current, download, upload, hprevious, hcurrent, hcalculated, hdown, hup⟩
    obtain rfl := Option.some.inj hprevious
    obtain rfl := Option.some.inj hcurrent
    unfold calculateNetworkSpeed at hcalculated
    rw [if_neg (not_le.mpr helapsed)] at hcalculated
    obtain ⟨hd, hu⟩ := NetworkSpeed.mk.inj (Option.some.inj hcalculated)
    rw [← Double.finite.inj hd, hspeed] at hdown
    rw [← Double.finite.inj hu, hspeed] at hup
    exact ⟨Int.cast_injective hdown, Int.cast_injective hup⟩
  · rintro ⟨hdown, hup⟩
    refine ⟨_, _, _, _, rfl, rfl, if_neg (not_le.mpr helapsed), ?_, ?_⟩
    · rw [hspeed, hdown]
    · rw [hspeed, hup]

/-! ### Two interfaces -/

/-- A text with the interfaces `eth0` and `eth1`, of which these bytes were received. -/
def twoCards (eth0 eth1 : String) : Bytes :=
  ascii "Inter-|\n face |\neth0: " ++ ascii eth0 ++
    ascii " 0 0 0 0 0 0 0 0 0 0 0 0 0 0 0\neth1: " ++ ascii eth1 ++
    ascii " 0 0 0 0 0 0 0 0 0 0 0 0 0 0 0\n"

/-- A first reading. -/
def cardsBefore : NetDev where
  content := twoCards "1000" "100"
  headings := (ascii "Inter-|", ascii " face |")
  lines := [ascii "eth0: 1000 0 0 0 0 0 0 0 0 0 0 0 0 0 0 0",
    ascii "eth1: 100 0 0 0 0 0 0 0 0 0 0 0 0 0 0 0"]
  lines_eq := by decide +kernel
  short := by decide +kernel
  range := by decide +kernel

/-- A reading behind it, where both interfaces have received more. -/
def cardsAdvanced : NetDev where
  content := twoCards "1500" "600"
  headings := (ascii "Inter-|", ascii " face |")
  lines := [ascii "eth0: 1500 0 0 0 0 0 0 0 0 0 0 0 0 0 0 0",
    ascii "eth1: 600 0 0 0 0 0 0 0 0 0 0 0 0 0 0 0"]
  lines_eq := by decide +kernel
  short := by decide +kernel
  range := by decide +kernel

/-- Another one, where `eth0` was reset. -/
def cardsReset : NetDev where
  content := twoCards "0" "600"
  headings := (ascii "Inter-|", ascii " face |")
  lines := [ascii "eth0: 0 0 0 0 0 0 0 0 0 0 0 0 0 0 0 0",
    ascii "eth1: 600 0 0 0 0 0 0 0 0 0 0 0 0 0 0 0"]
  lines_eq := by decide +kernel
  short := by decide +kernel
  range := by decide +kernel

/-- The names of the two. -/
def cardNames : List Bytes := [ascii "eth0", ascii "eth1"]

/-- An interface that has received some bytes, and sent none. -/
def card (name : String) (received : ℤ) : InterfaceLine :=
  ⟨ascii name, received :: List.replicate 15 0⟩

theorem interfaces_cardsBefore : cardsBefore.interfaces = [card "eth0" 1000, card "eth1" 100] := by
  decide +kernel

theorem interfaces_cardsAdvanced :
    cardsAdvanced.interfaces = [card "eth0" 1500, card "eth1" 600] := by
  decide +kernel

theorem interfaces_cardsReset : cardsReset.interfaces = [card "eth0" 0, card "eth1" 600] := by
  decide +kernel

/-- They are selected where there is no filter. -/
theorem selects_cardNames {d : NetDev} {a b : ℤ}
    (h : d.interfaces = [card "eth0" a, card "eth1" b]) : d.Selects .zero cardNames where
  nodup := by decide
  mem_iff name := by
    have hnames : d.interfaces.map InterfaceLine.name = cardNames := by
      rw [h]
      rfl
    have hmem : name ∈ cardNames ↔ ∃ i ∈ d.interfaces, i.name = name := by
      rw [← hnames, List.mem_map]
    rw [← hmem]
    refine (and_iff_right_of_imp fun hname => ?_).symm
    obtain rfl | hname := List.mem_cons.mp hname
    · decide
    · rw [List.mem_singleton.mp hname]
      decide

/-- Their totals. -/
theorem fitsTotal_cards {d : NetDev} {a b : ℤ}
    (h : d.interfaces = [card "eth0" a, card "eth1" b]) (ha : 0 ≤ a) (hb : 0 ≤ b)
    (hlt : a + b < 2 ^ 64) :
    d.FitsTotal .zero InterfaceLine.received ∧ d.FitsTotal .zero InterfaceLine.transmitted := by
  have h₀ : networkInterfaceIsSelected .zero (card "eth0" a).name := by
    show networkInterfaceIsSelected .zero (ascii "eth0")
    decide
  have h₁ : networkInterfaceIsSelected .zero (card "eth1" b).name := by
    show networkInterfaceIsSelected .zero (ascii "eth1")
    decide
  have htotal (counter : InterfaceLine → ℤ) : d.total .zero counter =
      counter (card "eth0" a) + counter (card "eth1" b) := by
    rw [NetDev.total, h, totalOf_cons, totalOf_cons, totalOf_nil, if_pos h₀, if_pos h₁, add_zero]
  have hsent (name : String) (received : ℤ) : (card name received).transmitted = 0 := rfl
  unfold NetDev.FitsTotal
  rw [htotal, htotal, hsent, hsent]
  exact ⟨⟨add_nonneg ha hb, hlt⟩, by decide⟩

/-- Where both have received more, this is reported. -/
theorem reportsIncreases_cardsAdvanced :
    ReportsIncreases .zero cardsBefore cardsAdvanced 2 cardNames := by
  have hbefore := interfaces_cardsBefore
  have hadvanced := interfaces_cardsAdvanced
  obtain ⟨hrx, htx⟩ := fitsTotal_cards hbefore (by decide) (by decide) (by decide)
  obtain ⟨hrx', htx'⟩ := fitsTotal_cards hadvanced (by decide) (by decide) (by decide)
  refine (reportsIncreases_iff (by decide) (selects_cardNames hbefore)
    (selects_cardNames hadvanced) hrx hrx' htx htx' (by decide)).mpr ⟨.inl ?_, .inl ?_⟩
  all_goals
    unfold NetDev.counterOf
    rw [hbefore, hadvanced]
    decide

/-- Where one of them was reset, what the other one has received is not. -/
theorem reportsIncreases_cardsReset : ¬ ∀ (config : AppConfig) (d d' : NetDev)
    (elapsedSeconds : ℚ) (names : List Bytes),
    config.networkInterfaceCount.toNat ≤ maxNetworkInterfaces → d.Selects config names →
    d'.Selects config names → d.FitsTotal config InterfaceLine.received →
    d'.FitsTotal config InterfaceLine.received → d.FitsTotal config InterfaceLine.transmitted →
    d'.FitsTotal config InterfaceLine.transmitted → 0 < elapsedSeconds →
    ReportsIncreases config d d' elapsedSeconds names := by
  intro h
  obtain ⟨hrx, htx⟩ := fitsTotal_cards interfaces_cardsBefore (by decide) (by decide) (by decide)
  obtain ⟨hrx', htx'⟩ := fitsTotal_cards interfaces_cardsReset (by decide) (by decide) (by decide)
  obtain ⟨previous, current, download, upload, hprevious, hcurrent, hspeed, hdownload, -⟩ :=
    h .zero cardsBefore cardsReset 1 cardNames (by decide)
      (selects_cardNames interfaces_cardsBefore) (selects_cardNames interfaces_cardsReset)
      hrx hrx' htx htx' (by decide)
  have hbefore : readNetworkInfoFiltered .zero (some cardsBefore.content) = some ⟨1100, 0⟩ := by
    decide +kernel
  have hreset : readNetworkInfoFiltered .zero (some cardsReset.content) = some ⟨600, 0⟩ := by
    decide +kernel
  obtain rfl := Option.some.inj (hbefore.symm.trans hprevious)
  obtain rfl := Option.some.inj (hreset.symm.trans hcurrent)
  have hzero : calculateNetworkSpeed ⟨1100, 0⟩ ⟨600, 0⟩ 1 = some ⟨.finite 0, .finite 0⟩ := by
    decide +kernel
  obtain ⟨hdown, -⟩ := NetworkSpeed.mk.inj (Option.some.inj (hzero.symm.trans hspeed))
  have hincrease : increase cardsBefore cardsReset InterfaceLine.received cardNames = 500 := by
    unfold increase NetDev.counterOf
    rw [interfaces_cardsBefore, interfaces_cardsReset]
    decide
  rw [← Double.finite.inj hdown, hincrease] at hdownload
  norm_num at hdownload

end EdgeSentinel.Monitor
