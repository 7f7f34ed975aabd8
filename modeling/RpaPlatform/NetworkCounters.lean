import Mathlib.Algebra.BigOperators.Group.List.Basic
import Mathlib.Algebra.Order.BigOperators.Group.List
import Mathlib.Algebra.Order.Field.Rat
import Mathlib.Data.List.DropRight
import RpaPlatform.Dictionary

namespace RpaPlatform.Telemetry

/-!
# The octet counters of the network adapters

Windows counts the octets of each adapter modulo `2 ^ 32`.  The agent adds the
counters of the adapters up, and corrects the difference of two sums, when it
is negative, by one modulus.  That is right as long as at most one counter has
wrapped.
-/

/-! ### The table of interfaces -/

/-- What the agent reads of a `MIB_IFROW`. -/
structure InterfaceRow where
  operStatus : Nat
  inOctets : UInt32
  outOctets : UInt32
  descrLen : Nat
  descr : List UInt8

def filterInterfaceMarkers : List String :=
  ["-WFP Native MAC Layer LightWeight Filter-",
    "-Npcap Packet Driver (NPCAP)-",
    "-VirtualBox NDIS Light-Weight Filter-",
    "-QoS Packet Scheduler-",
    "-WFP 802.3 MAC Layer LightWeight Filter-"]

/-- What stands before the first occurrence of a marker, if there is one. -/
def before? (marker : List Char) : List Char → Option (List Char)
  | [] =>
    if marker = [] then some [] else none
  | character :: rest =>
    if marker.isPrefixOf (character :: rest) then
      some []
    else
      (before? marker rest).map (character :: ·)

/-- The description without what a filter driver has added to it. -/
def normalizedDescription (description : String) : String :=
  (filterInterfaceMarkers.findSome? fun marker =>
      (before? marker.toList description.toList).map String.ofList).getD
    description

section Rows

variable (decode : List UInt8 → String)

/-- The description of a row; `decode` ignores what is not UTF-8. -/
def InterfaceRow.description (row : InterfaceRow) : String :=
  String.ofList
    ((decode (row.descr.take row.descrLen)).toList.rdropWhile (· = '\x00'))

/-- The adapter that a row counts for, unless the row is skipped. -/
def InterfaceRow.adapter? (row : InterfaceRow) : Option String :=
  if row.operStatus ∉ [4, 5] then
    none
  else if "Software Loopback Interface".toList.isPrefixOf
      (row.description decode).toList then
    none
  else
    some (normalizedDescription (row.description decode))

/-- Count a row; of the rows of one adapter the largest counters count. -/
def countRow
    (totals : List (String × Nat × Nat))
    (row : InterfaceRow) : List (String × Nat × Nat) :=
  match row.adapter? decode with
  | none =>
    totals
  | some adapter =>
    let current := (row.inOctets.toNat, row.outOctets.toNat)
    match totals.lookup adapter with
    | none =>
      Dictionary.set adapter current totals
    | some previous =>
      Dictionary.set adapter
        (max previous.1 current.1, max previous.2 current.2) totals

/-- `_read_network_counters`, once the table has been read. -/
def readNetworkCounters (rows : List InterfaceRow) : Nat × Nat :=
  let totals := rows.foldl (countRow decode) []
  ((totals.map fun adapter => adapter.2.1).sum,
    (totals.map fun adapter => adapter.2.2).sum)

/-! ### Totals -/

/-- The rows that are counted, with their adapters and counters. -/
def counted (rows : List InterfaceRow) : List (String × Nat × Nat) :=
  rows.filterMap fun row =>
    (row.adapter? decode).map fun adapter =>
      (adapter, row.inOctets.toNat, row.outOctets.toNat)

theorem foldl_countRow
    {rows : List InterfaceRow}
    {totals : List (String × Nat × Nat)}
    (distinct : ((totals ++ counted decode rows).map Prod.fst).Nodup) :
    rows.foldl (countRow decode) totals = totals ++ counted decode rows := by
  induction rows generalizing totals with
  | nil =>
    simp [counted]
  | cons row rest inductionHypothesis =>
    rw [List.foldl_cons]
    cases found : row.adapter? decode with
    | none =>
      have skipped : counted decode (row :: rest) = counted decode rest := by
        simp [counted, found]
      have same : countRow decode totals row = totals := by
        simp [countRow, found]
      rw [skipped] at distinct ⊢
      rw [same]
      exact inductionHypothesis distinct
    | some adapter =>
      let entry := (adapter, row.inOctets.toNat, row.outOctets.toNat)
      have kept :
          counted decode (row :: rest) = entry :: counted decode rest := by
        simp [counted, found, entry]
      have isNew : adapter ∉ totals.map Prod.fst := by
        rw [kept, List.map_append, List.map_cons] at distinct
        intro member
        exact
          (List.nodup_append.mp distinct).2.2 adapter member adapter
            List.mem_cons_self rfl
      have added : countRow decode totals row = totals ++ [entry] := by
        simp [countRow, found, entry,
          Dictionary.lookup_eq_none_iff.mpr isNew,
          Dictionary.set_of_absent _ isNew]
      rw [kept, List.append_cons] at distinct
      rw [added, kept, inductionHypothesis distinct, ← List.append_cons]

theorem readNetworkCounters_eq
    {rows : List InterfaceRow}
    (distinct : ((counted decode rows).map Prod.fst).Nodup) :
    readNetworkCounters decode rows =
      (((counted decode rows).map fun adapter => adapter.2.1).sum,
        ((counted decode rows).map fun adapter => adapter.2.2).sum) := by
  rw [readNetworkCounters,
    foldl_countRow decode (by simpa using distinct), List.nil_append]

end Rows

/-! ### Rates -/

/-- `_system_io_prev`. -/
structure SystemIo where
  timestamp : ℚ
  diskReadBytes : Nat
  diskWriteBytes : Nat
  networkRecvBytes : Nat
  networkSentBytes : Nat

/-- The rates that are returned. -/
structure IoMetrics where
  diskReadBps : ℚ := 0
  diskWriteBps : ℚ := 0
  networkRecvBps : ℚ := 0
  networkSentBps : ℚ := 0

/-- What is read for a sample; reading the counters may raise. -/
structure IoReading where
  timestamp : ℚ
  disk : Option (Nat × Nat)
  network : Option (Nat × Nat)

/-- A sample; counters that could not be read are zero. -/
def IoReading.sample (reading : IoReading) : SystemIo where
  timestamp := reading.timestamp
  diskReadBytes := (reading.disk.getD (0, 0)).1
  diskWriteBytes := (reading.disk.getD (0, 0)).2
  networkRecvBytes := (reading.network.getD (0, 0)).1
  networkSentBytes := (reading.network.getD (0, 0)).2

def networkDelta (previous current : Nat) : Int :=
  let delta := (current : Int) - previous
  if delta < 0 then delta + 2 ^ 32 else delta

def networkInDelta (previous current : SystemIo) : Int :=
  networkDelta previous.networkRecvBytes current.networkRecvBytes

def networkOutDelta (previous current : SystemIo) : Int :=
  networkDelta previous.networkSentBytes current.networkSentBytes

/-- The rates between two samples. -/
def ioRates (previous current : SystemIo) : IoMetrics :=
  let deltaTime := current.timestamp - previous.timestamp
  let rate (delta : Int) : ℚ := max (delta / deltaTime) 0
  if 0 < deltaTime then
    { diskReadBps :=
        rate ((current.diskReadBytes : Int) - previous.diskReadBytes)
      diskWriteBps :=
        rate ((current.diskWriteBytes : Int) - previous.diskWriteBytes)
      networkRecvBps := rate (networkInDelta previous current)
      networkSentBps := rate (networkOutDelta previous current) }
  else
    {}

/-- `_get_system_io_metrics`, but for the rounding of what it returns. -/
def getSystemIoMetrics
    (previous : Option SystemIo)
    (reading : IoReading) : IoMetrics × SystemIo :=
  (previous.elim {} fun previous => ioRates previous reading.sample,
    reading.sample)

/-! ### Traffic -/

/-- A counter of an adapter, and the traffic until the next sample. -/
structure Passage where
  counter : UInt32
  traffic : Nat

namespace Passage

variable (passage : Passage)

def wraps : Bool :=
  2 ^ 32 ≤ passage.counter.toNat + passage.traffic

def next : Nat :=
  (passage.counter.toNat + passage.traffic) % 2 ^ 32

theorem next_add_wraps
    (once : passage.traffic < 2 ^ 32) :
    passage.next + (if passage.wraps then 2 ^ 32 else 0) =
      passage.counter.toNat + passage.traffic := by
  have bounded := passage.counter.toNat_lt
  unfold next wraps
  by_cases beyond : 2 ^ 32 ≤ passage.counter.toNat + passage.traffic
  · simp only [beyond, decide_true, ↓reduceIte]
    omega
  · simp only [beyond, decide_false, Bool.false_eq_true, ↓reduceIte]
    omega

end Passage

theorem sum_next_add_wraps
    {passages : List Passage}
    (once : ∀ passage ∈ passages, passage.traffic < 2 ^ 32) :
    (passages.map Passage.next).sum +
        2 ^ 32 * passages.countP Passage.wraps =
      (passages.map (·.counter.toNat)).sum +
        (passages.map Passage.traffic).sum := by
  induction passages with
  | nil =>
    simp
  | cons first rest inductionHypothesis =>
    have step := first.next_add_wraps (once first List.mem_cons_self)
    have later :=
      inductionHypothesis fun passage member =>
        once passage (List.mem_cons_of_mem _ member)
    rw [List.map_cons, List.sum_cons, List.map_cons, List.sum_cons,
      List.map_cons, List.sum_cons, List.countP_cons]
    cases isWrapped : first.wraps with
    | true =>
      rw [isWrapped, if_pos rfl] at step
      rw [if_pos rfl, Nat.mul_add, Nat.mul_one]
      generalize (2 ^ 32 : Nat) = modulus at step later ⊢
      omega
    | false =>
      rw [isWrapped, if_neg Bool.false_ne_true] at step
      rw [if_neg Bool.false_ne_true]
      omega

theorem networkDelta_eq_traffic_iff
    {passages : List Passage}
    (small : (passages.map Passage.traffic).sum < 2 ^ 32) :
    networkDelta (passages.map (·.counter.toNat)).sum
          (passages.map Passage.next).sum =
        ((passages.map Passage.traffic).sum : Int) ↔
      passages.countP Passage.wraps ≤ 1 := by
  have once : ∀ passage ∈ passages, passage.traffic < 2 ^ 32 := by
    intro passage member
    exact
      Nat.lt_of_le_of_lt
        (List.single_le_sum (fun _ _ => Nat.zero_le _) _
          (List.mem_map_of_mem member))
        small
  have sums := sum_next_add_wraps once
  unfold networkDelta
  dsimp only
  split <;> omega

/-! ### Two samples -/

/-- A row of an adapter, its traffic, and the row of the next sample. -/
structure AdapterPassage where
  first : InterfaceRow
  second : InterfaceRow
  received : Nat
  sent : Nat

namespace AdapterPassage

variable
    (decode : List UInt8 → String)
    (adapter : AdapterPassage)

def receiving : Passage where
  counter := adapter.first.inOctets
  traffic := adapter.received

def sending : Passage where
  counter := adapter.first.outOctets
  traffic := adapter.sent

/-- Both rows are of one adapter, whose counters have counted its traffic. -/
structure Counts : Prop where
  sameAdapter : adapter.second.adapter? decode = adapter.first.adapter? decode
  received : adapter.second.inOctets.toNat = adapter.receiving.next
  sent : adapter.second.outOctets.toNat = adapter.sending.next

end AdapterPassage

section Samples

variable
    {decode : List UInt8 → String}
    {adapters : List AdapterPassage}

/-- The adapters that are counted. -/
def countedAdapters
    (decode : List UInt8 → String)
    (adapters : List AdapterPassage) : List AdapterPassage :=
  adapters.filter fun adapter => (adapter.first.adapter? decode).isSome

theorem counted_first :
    counted decode (adapters.map AdapterPassage.first) =
      (countedAdapters decode adapters).map fun adapter =>
        ((adapter.first.adapter? decode).getD "",
          adapter.first.inOctets.toNat, adapter.first.outOctets.toNat) := by
  induction adapters with
  | nil =>
    rfl
  | cons adapter rest inductionHypothesis =>
    cases found : adapter.first.adapter? decode <;>
      simp_all [counted, countedAdapters]

theorem counted_second
    (counts : ∀ adapter ∈ adapters, adapter.Counts decode) :
    counted decode (adapters.map AdapterPassage.second) =
      (countedAdapters decode adapters).map fun adapter =>
        ((adapter.first.adapter? decode).getD "",
          adapter.receiving.next, adapter.sending.next) := by
  induction adapters with
  | nil =>
    rfl
  | cons adapter rest inductionHypothesis =>
    have isCounted := counts adapter List.mem_cons_self
    have later :=
      inductionHypothesis fun other member =>
        counts other (List.mem_cons_of_mem _ member)
    have same := isCounted.sameAdapter
    have received := isCounted.received
    have sent := isCounted.sent
    cases found : adapter.first.adapter? decode <;>
      simp_all [counted, countedAdapters]

theorem keys_counted (rows : List InterfaceRow) :
    (counted decode rows).map Prod.fst =
      rows.filterMap (InterfaceRow.adapter? decode) := by
  rw [counted, List.map_filterMap]
  apply List.filterMap_congr
  intro row _
  cases row.adapter? decode <;> rfl

theorem readNetworkCounters_perm
    {rows others : List InterfaceRow}
    (same : rows.Perm others)
    (distinct : (others.filterMap (InterfaceRow.adapter? decode)).Nodup) :
    readNetworkCounters decode rows =
      (((counted decode others).map fun adapter => adapter.2.1).sum,
        ((counted decode others).map fun adapter => adapter.2.2).sum) := by
  have alike : (counted decode rows).Perm (counted decode others) :=
    same.filterMap _
  have distinctRows : ((counted decode rows).map Prod.fst).Nodup := by
    rw [(alike.map Prod.fst).nodup_iff, keys_counted]
    exact distinct
  rw [readNetworkCounters_eq decode distinctRows, (alike.map _).sum_eq,
    (alike.map _).sum_eq]

end Samples

/--
Two samples of the same adapters, none of them with two rows; both times the
table of interfaces could be read.
-/
structure SampledTwice
    (decode : List UInt8 → String)
    (adapters : List AdapterPassage)
    (first second : IoReading) : Prop where
  counts : ∀ adapter ∈ adapters, adapter.Counts decode
  distinct :
    ((adapters.map AdapterPassage.first).filterMap
      (InterfaceRow.adapter? decode)).Nodup
  firstRead :
    ∃ rows : List InterfaceRow,
      rows.Perm (adapters.map AdapterPassage.first) ∧
        first.network = some (readNetworkCounters decode rows)
  secondRead :
    ∃ rows : List InterfaceRow,
      rows.Perm (adapters.map AdapterPassage.second) ∧
        second.network = some (readNetworkCounters decode rows)
  later : first.timestamp < second.timestamp

section Deltas

variable
    {decode : List UInt8 → String}
    {adapters : List AdapterPassage}
    {first second : IoReading}
    (sampled : SampledTwice decode adapters first second)

include sampled

theorem SampledTwice.totals :
    first.network =
        some
          (((countedAdapters decode adapters).map
              (·.receiving.counter.toNat)).sum,
            ((countedAdapters decode adapters).map
              (·.sending.counter.toNat)).sum) ∧
      second.network =
        some
          (((countedAdapters decode adapters).map (·.receiving.next)).sum,
            ((countedAdapters decode adapters).map (·.sending.next)).sum) := by
  obtain ⟨firstRows, firstSame, firstRead⟩ := sampled.firstRead
  obtain ⟨secondRows, secondSame, secondRead⟩ := sampled.secondRead
  have secondDistinct :
      ((adapters.map AdapterPassage.second).filterMap
        (InterfaceRow.adapter? decode)).Nodup := by
    have alike := sampled.distinct
    rw [← keys_counted, counted_first] at alike
    rw [← keys_counted, counted_second sampled.counts]
    simpa [Function.comp_def] using alike
  constructor
  · rw [firstRead, readNetworkCounters_perm firstSame sampled.distinct,
      counted_first, List.map_map, List.map_map]
    rfl
  · rw [secondRead, readNetworkCounters_perm secondSame secondDistinct,
      counted_second sampled.counts, List.map_map, List.map_map]
    rfl

/--
Between two samples, the difference for a direction is the traffic of all
adapters that are counted exactly when at most one of their counters wraps;
the rates are those of the differences.
-/
theorem networkDeltas_eq_traffic_iff
    (previous : Option SystemIo) :
    let counted := countedAdapters decode adapters
    let start := (getSystemIoMetrics previous first).2
    let measured := getSystemIoMetrics (some start) second
    let deltaIn := networkInDelta start measured.2
    let deltaOut := networkOutDelta start measured.2
    let deltaTime := second.timestamp - first.timestamp
    ((counted.map AdapterPassage.received).sum < 2 ^ 32 →
        (deltaIn = ((counted.map AdapterPassage.received).sum : Int) ↔
          counted.countP (·.receiving.wraps) ≤ 1)) ∧
      ((counted.map AdapterPassage.sent).sum < 2 ^ 32 →
        (deltaOut = ((counted.map AdapterPassage.sent).sum : Int) ↔
          counted.countP (·.sending.wraps) ≤ 1)) ∧
        measured.1.networkRecvBps = max (deltaIn / deltaTime) 0 ∧
          measured.1.networkSentBps = max (deltaOut / deltaTime) 0 := by
  intro counted start measured deltaIn deltaOut deltaTime
  obtain ⟨firstRead, secondRead⟩ := sampled.totals
  have inDelta :
      deltaIn =
        networkDelta (counted.map (·.receiving.counter.toNat)).sum
          (counted.map (·.receiving.next)).sum := by
    simp [deltaIn, networkInDelta, measured, start, getSystemIoMetrics,
      IoReading.sample, firstRead, secondRead, counted]
  have outDelta :
      deltaOut =
        networkDelta (counted.map (·.sending.counter.toNat)).sum
          (counted.map (·.sending.next)).sum := by
    simp [deltaOut, networkOutDelta, measured, start, getSystemIoMetrics,
      IoReading.sample, firstRead, secondRead, counted]
  have elapsed : 0 < deltaTime := sub_pos.mpr sampled.later
  have rates : measured.1 = ioRates start measured.2 := rfl
  refine ⟨fun small => ?_, fun small => ?_, ?_, ?_⟩
  · have counted_iff :=
      @networkDelta_eq_traffic_iff
        (counted.map AdapterPassage.receiving)
        (by simpa [Function.comp_def, AdapterPassage.receiving] using small)
    simpa [inDelta, Function.comp_def, List.countP_map,
      AdapterPassage.receiving] using counted_iff
  · have counted_iff :=
      @networkDelta_eq_traffic_iff
        (counted.map AdapterPassage.sending)
        (by simpa [Function.comp_def, AdapterPassage.sending] using small)
    simpa [outDelta, Function.comp_def, List.countP_map,
      AdapterPassage.sending] using counted_iff
  · rw [rates]
    exact congrArg IoMetrics.networkRecvBps (if_pos elapsed)
  · rw [rates]
    exact congrArg IoMetrics.networkSentBps (if_pos elapsed)

end Deltas

def asciiDecode (bytes : List UInt8) : String :=
  String.ofList (bytes.map fun byte => Char.ofNat byte.toNat)

/-- An adapter whose counter wraps at the first octet it receives. -/
def fullAdapter (name : UInt8) (received : Nat) : AdapterPassage where
  first :=
    { operStatus := 5
      inOctets := 0xFFFFFFFF
      outOctets := 0
      descrLen := 1
      descr := [name] }
  second :=
    { operStatus := 5
      inOctets := UInt32.ofNat (received - 1)
      outOctets := 0
      descrLen := 1
      descr := [name] }
  received := received
  sent := 0

/-- Samples of some adapters, one second apart. -/
def readingOf
    (adapters : List AdapterPassage)
    (row : AdapterPassage → InterfaceRow)
    (timestamp : ℚ) : IoReading where
  timestamp := timestamp
  disk := some (0, 0)
  network := some (readNetworkCounters asciiDecode (adapters.map row))

/-- A counter that wraps alone is corrected. -/
theorem networkDeltas_eq_traffic_single :
    networkInDelta
        (getSystemIoMetrics none
          (readingOf [fullAdapter 97 10] AdapterPassage.first 0)).2
        (getSystemIoMetrics
          (some
            (getSystemIoMetrics none
              (readingOf [fullAdapter 97 10] AdapterPassage.first 0)).2)
          (readingOf [fullAdapter 97 10] AdapterPassage.second 1)).2 =
      10 := by
  have sampled :
      SampledTwice asciiDecode [fullAdapter 97 10]
        (readingOf [fullAdapter 97 10] AdapterPassage.first 0)
        (readingOf [fullAdapter 97 10] AdapterPassage.second 1) :=
    { counts := by
        intro adapter member
        obtain rfl := List.mem_singleton.mp member
        exact ⟨by decide +kernel, by decide +kernel, by decide +kernel⟩
      distinct := by decide +kernel
      firstRead := ⟨_, List.Perm.refl _, rfl⟩
      secondRead := ⟨_, List.Perm.refl _, rfl⟩
      later := (zero_lt_one : (0 : ℚ) < 1) }
  have counted :
      countedAdapters asciiDecode [fullAdapter 97 10] =
        [fullAdapter 97 10] := by
    rw [countedAdapters, List.filter_eq_self]
    intro adapter member
    obtain rfl := List.mem_singleton.mp member
    decide +kernel
  have corrected := (networkDeltas_eq_traffic_iff sampled none).1
  rw [counted] at corrected
  exact (corrected (by decide)).mpr (by decide)

/--
Between two samples, the difference for each direction is the traffic of all
adapters that are counted, as long as that is less than one modulus.
-/
def NetworkDeltasExact : Prop :=
  ∀ {decode : List UInt8 → String} {adapters : List AdapterPassage}
    {first second : IoReading},
    SampledTwice decode adapters first second →
    ∀ previous : Option SystemIo,
      let counted := countedAdapters decode adapters
      let start := (getSystemIoMetrics previous first).2
      let stop := (getSystemIoMetrics (some start) second).2
      ((counted.map AdapterPassage.received).sum < 2 ^ 32 →
          networkInDelta start stop =
            ((counted.map AdapterPassage.received).sum : Int)) ∧
        ((counted.map AdapterPassage.sent).sum < 2 ^ 32 →
          networkOutDelta start stop =
            ((counted.map AdapterPassage.sent).sum : Int))

/-- Two counters that wrap are corrected by one modulus. -/
theorem not_networkDeltasExact : ¬ NetworkDeltasExact := by
  intro holds
  let adapters := [fullAdapter 97 1, fullAdapter 98 1]
  have sampled :
      SampledTwice asciiDecode adapters
        (readingOf adapters AdapterPassage.first 0)
        (readingOf adapters AdapterPassage.second 1) :=
    { counts := by
        intro adapter member
        rcases List.mem_pair.mp member with rfl | rfl
        · exact ⟨by decide +kernel, by decide +kernel, by decide +kernel⟩
        · exact ⟨by decide +kernel, by decide +kernel, by decide +kernel⟩
      distinct := by decide +kernel
      firstRead := ⟨_, List.Perm.refl _, rfl⟩
      secondRead := ⟨_, List.Perm.refl _, rfl⟩
      later := (zero_lt_one : (0 : ℚ) < 1) }
  have claimed := (holds sampled none).1
  revert claimed
  decide +kernel

end RpaPlatform.Telemetry
