/-
  ControlRoom.Browser.PageQueries
  ───────────────────────────────
  **WHAT THE PAGES ASK FOR IN QUERIES** (`web/src/lib`,
  `internal/api/logs/logs.go`).

  Texts go into a query by `URLSearchParams`, or escaped one by one, and an
  empty text is left out.  Unlike the parameters of a path, the server
  unescapes them, so any text arrives, whatever it has in it.

    §1  what a call writes into its query, and what is read there
        (`query_value`),
    §2  the filter of the logs, down to `journalctl` (`page_query_read`).
-/
import ControlRoom.Browser.PageRequests

namespace ControlRoom

open Foundation

/-! ## §1. Keys and values. -/

/-- What a call writes into its query. -/
def PageCall.arguments : PageCall → List (String × String)
  | services search type state => present [("q", search), ("type", type), ("state", state)]
  | containers => [("all", "true")]
  | containerRemove _ force | deletePod _ _ force => if force then [("force", "true")] else []
  | logs q | logsTail q => q.arguments
  | k8sWorkloads ns | k8sPods ns | k8sServices ns | k8sConfigMaps ns | k8sSecrets ns =>
      present [("namespace", ns)]
  | k8sManifest kind ns name => [("kind", kind), ("namespace", ns), ("name", name)]
  | podLogs _ _ container => [("container", container), ("tail", "200")]
  | _ => []

/-- What `c.Query` returns for the keys of a query. -/
structure QueryOf (raw : List Char) (query : String → String) : Prop where
  reads : Reads raw fun key => (query (String.ofList key)).toList

theorem PageCall.query_eq (call : PageCall) :
    ∃ E, call.request.query = queryText E call.arguments := by
  cases call with
  | services | logs | logsTail => exact ⟨formComponent, rfl⟩
  | containers | containerRemove | k8sWorkloads | k8sPods | k8sServices | k8sConfigMaps | k8sSecrets
  | k8sManifest | deletePod | podLogs => exact ⟨uriComponent, rfl⟩
  | _ => exact ⟨uriComponent, rfl⟩

theorem keys_present (args : List (String × String)) :
    ((present args).map Prod.fst).Sublist (args.map Prod.fst) :=
  List.filter_sublist.map Prod.fst

theorem LogQuery.fields_distinct (q : LogQuery) : (q.fields.map Prod.fst).Nodup := by
  simp [fields]

theorem PageCall.keys_distinct (call : PageCall) : (call.arguments.map Prod.fst).Nodup := by
  cases call with
  | services => exact (keys_present _).nodup (by simp)
  | logs | logsTail => exact (keys_present _).nodup (LogQuery.fields_distinct _)
  | k8sWorkloads | k8sPods | k8sServices | k8sConfigMaps | k8sSecrets =>
      exact (keys_present _).nodup (by simp)
  | containerRemove id force => cases force <;> simp [arguments]
  | deletePod ns name force => cases force <;> simp [arguments]
  | k8sManifest | podLogs | containers => simp [arguments]
  | _ => exact List.nodup_nil

/-- What is left out has no value, as what is there with none. -/
theorem lookup_present {args : List (String × String)} (h : (args.map Prod.fst).Nodup)
    (key : String) : ((present args).lookup key).getD "" = (args.lookup key).getD "" := by
  induction args with
  | nil => rfl
  | cons p args ih =>
      obtain ⟨hnew, hrest⟩ := List.nodup_cons.mp h
      by_cases hempty : p.2 = ""
      · have hdropped : present (p :: args) = present args :=
          List.filter_cons_of_neg (by simpa using hempty)
        rw [hdropped, ih hrest, List.lookup_cons]
        by_cases hkey : key = p.1
        · -- it is left out, and no other has its key
          have hnone : args.lookup key = none := by
            rw [List.lookup_eq_none_iff]
            intro q hq
            rw [bne_iff_ne, hkey]
            rintro heq
            exact hnew (heq ▸ List.mem_map_of_mem hq)
          rw [hnone, beq_iff_eq.mpr hkey]
          exact hempty.symm
        · rw [beq_eq_false_iff_ne.mpr hkey]
      · have hkept : present (p :: args) = p :: present args :=
          List.filter_cons_of_pos (by simpa using hempty)
        rw [hkept, List.lookup_cons, List.lookup_cons]
        cases key == p.1 with
        | true => rfl
        | false => exact ih hrest

theorem lookup_toList (args : List (String × String)) (key : String) :
    (args.map fun a => (a.1.toList, a.2.toList)).lookup key.toList
      = (args.lookup key).map String.toList := by
  induction args with
  | nil => rfl
  | cons p args ih =>
      rw [List.map_cons, List.lookup_cons, List.lookup_cons]
      have hsame : (key.toList == p.1.toList) = (key == p.1) :=
        Bool.eq_iff_iff.mpr (by rw [beq_iff_eq, beq_iff_eq, String.toList_inj])
      rw [hsame]
      cases key == p.1 with
      | true => rfl
      | false => exact ih

/-- **Every key has the value that the page has written**, and no other has one. -/
theorem query_value {call : PageCall} {query : String → String}
    (hread : QueryOf call.request.query.toList query) {key : String} (hkey : key ≠ "") :
    query key = (call.arguments.lookup key).getD "" := by
  obtain ⟨E, hquery⟩ := call.query_eq
  rw [hquery, queryText, String.toList_ofList] at hread
  -- the keys stay apart as lists of characters
  have hdistinct : ((call.arguments.map fun a => (a.1.toList, a.2.toList)).map Prod.fst).Nodup := by
    have hkeys := call.keys_distinct.map fun _ _ h => String.toList_inj.mp h
    simpa [List.map_map, Function.comp_def] using hkeys
  have hvalue := hread.reads.eq E hdistinct fun hnil => hkey (String.toList_eq_nil_iff.mp hnil)
  rw [String.ofList_toList, lookup_toList] at hvalue
  rw [← String.toList_inj, hvalue]
  cases call.arguments.lookup key <;> rfl

/-! ## §2. The filter of the logs. -/

/-- The filter that the page means. -/
def LogQuery.filter (q : LogQuery) : LogFilter where
  unit := q.unit
  priority := match q.priority with
    | some p => if 0 ≤ p.1 then p.1 else -1
    | none => -1
  since := q.since
  «until» := q.until
  search := q.q
  n := match q.n with
    | some n => n.1
    | none => 0

theorem atoi_itoa_neg {n : Int} (hneg : n < 0) (hbound : -2 ^ 63 ≤ n) : atoi (itoa n) = some n := by
  unfold itoa atoi
  rw [if_pos hneg, String.toList_append, String.toList_ofList, String.toList_ofList]
  show (Option.map (fun m : Int => -m)
    (decimal (Nat.toDigits 10 n.natAbs) >>= fun m => pure (m : Int))).filter _ = some n
  rw [decimal_toDigits]
  show (some (-(n.natAbs : Int))).filter _ = some n
  rw [show -(n.natAbs : Int) = n by omega]
  refine Option.filter_some_pos (decide_eq_true ?_)
  omega

/-- A number of the page is read as it was. -/
theorem atoi_safe (n : SafeInt) : atoi (itoa n.1) = some n.1 := by
  have hbound := n.2
  rcases lt_or_ge n.1 0 with hneg | hpos
  · exact atoi_itoa_neg hneg (by omega)
  · exact atoi_itoa hpos (by omega)

/-- A number that is sent when it meets the condition is read as it was, or as the default. -/
theorem atoi_numberText (n : Option SafeInt) (cond : Int → Bool) :
    atoi (numberText n cond) = match n with
      | some n => if cond n.1 then some n.1 else none
      | none => none := by
  have hempty : atoi "" = none := by decide
  unfold numberText
  cases n with
  | none => exact hempty
  | some n =>
      show atoi (if cond n.1 then itoa n.1 else "") = if cond n.1 then some n.1 else none
      split
      · exact atoi_safe n
      · exact hempty

theorem queryNumber_eq (default : Int) (value : String) :
    queryNumber default value = (atoi value).getD default := by
  have hempty : atoi "" = none := by decide
  unfold queryNumber
  split
  · next h =>
    rw [h, hempty]
    rfl
  · rfl

section Logs

variable {q : LogQuery} {query : String → String}

/-- The values of a query for logs. -/
theorem query_logs (call : PageCall) (hcall : call.arguments = q.arguments)
    (hread : QueryOf call.request.query.toList query) :
    query "unit" = q.unit
      ∧ query "priority" = numberText q.priority (fun p => decide (0 ≤ p))
      ∧ query "since" = q.since ∧ query "until" = q.until ∧ query "q" = q.q
      ∧ query "n" = numberText q.n (fun n => decide (n ≠ 0)) := by
  have hvalue : ∀ key, key ≠ "" → query key = (q.fields.lookup key).getD "" := by
    intro key hkey
    rw [query_value hread hkey, hcall]
    exact lookup_present q.fields_distinct key
  refine ⟨?_, ?_, ?_, ?_, ?_, ?_⟩
  · exact hvalue "unit" (by decide)
  · exact hvalue "priority" (by decide)
  · exact hvalue "since" (by decide)
  · exact hvalue "until" (by decide)
  · exact hvalue "q" (by decide)
  · exact hvalue "n" (by decide)

/-- The priority that is read, and the one that is meant. -/
theorem priority_eq : (atoi (numberText q.priority fun p => decide (0 ≤ p))).getD (-1)
    = q.filter.priority := by
  rw [atoi_numberText]
  show _ = match q.priority with
    | some p => if 0 ≤ p.1 then p.1 else -1
    | none => -1
  cases q.priority with
  | none => rfl
  | some p => by_cases hpos : 0 ≤ p.1 <;> simp [hpos]

/-- The number of lines that is read, and the one that is meant. -/
theorem lines_eq : (atoi (numberText q.n fun n => decide (n ≠ 0))).getD 0 = q.filter.n := by
  rw [atoi_numberText]
  show _ = match q.n with
    | some n => n.1
    | none => 0
  cases q.n with
  | none => rfl
  | some n => by_cases hzero : n.1 = 0 <;> simp [hzero]

theorem filterFromQuery_eq (hread : QueryOf (PageCall.logs q).request.query.toList query) :
    filterFromQuery query = q.filter := by
  obtain ⟨hunit, hpriority, hsince, huntil, hsearch, hn⟩ := query_logs (.logs q) rfl hread
  unfold filterFromQuery
  rw [hunit, hpriority, hsince, huntil, hsearch, hn, queryNumber_eq, queryNumber_eq, priority_eq,
    lines_eq]
  rfl

theorem queryFromConn_eq (hread : QueryOf (PageCall.logsTail q).request.query.toList query) :
    queryFromConn query = { q.filter with «until» := "", n := 0 } := by
  obtain ⟨hunit, hpriority, hsince, -, hsearch, -⟩ := query_logs (.logsTail q) rfl hread
  unfold queryFromConn
  rw [hunit, hpriority, hsince, hsearch, priority_eq]
  rfl

theorem LogQuery.filter_n_lt (q : LogQuery) : q.filter.n < 2 ^ 63 := by
  show (match q.n with
    | some n => n.1
    | none => 0) < 2 ^ 63
  cases q.n with
  | none => decide
  | some n =>
      have hbound := n.2
      show n.1 < 2 ^ 63
      omega

end Logs

/-- **EVERY QUERY IS READ AS IT WAS MEANT.**  Whatever the page writes into the query of an
address, the server reads under each key what was written there, and nothing under any other.  So
`journalctl` is asked for what the page shows as its filter, unless that is refused for its first
fault; a tail leaves the end and the number of lines out. -/
theorem page_query_read {call : PageCall} (hcall : call.Named) {query : String → String}
    (hread : QueryOf (readTarget call.request.target.toList).2 query) :
    (∀ key, key ≠ "" → query key = (call.arguments.lookup key).getD "")
      ∧ (∀ q, call = .logs q →
          match (filterFromQuery query).args false with
          | .error err => q.filter.faults.head? = some err
          | .ok argv => q.filter.faults = []
              ∧ journalctlReads argv = some (q.filter.asks false))
      ∧ ∀ q, call = .logsTail q →
          match (queryFromConn query).args true with
          | .error err => { q.filter with «until» := "" }.faults.head? = some err
          | .ok argv => { q.filter with «until» := "" }.faults = []
              ∧ journalctlReads argv
                = some ({ q.filter with «until» := "", n := 0 }.asks true) := by
  have htarget := PageRequest.readTarget_target (PageCall.whole_segments hcall)
    call.hash_not_mem_query
  have hquery : QueryOf call.request.query.toList query := by
    rw [htarget] at hread
    exact hread
  refine ⟨fun key hkey => query_value hquery hkey, ?_, ?_⟩
  · rintro q rfl
    rw [filterFromQuery_eq hquery]
    exact q.filter.args_reads false q.filter_n_lt
  · rintro q rfl
    rw [queryFromConn_eq hquery]
    have hnone : (0 : Int) < 2 ^ 63 := by decide
    exact LogFilter.args_reads { q.filter with «until» := "", n := 0 } true hnone

/-- The logs of one unit, with a search that has a space. -/
def gettyLogs : LogQuery :=
  ⟨"getty@tty1.service", some ⟨3, by decide⟩, "-1h", "", "login failed", none⟩

theorem page_query_read_getty :
    (readTarget (PageCall.logs gettyLogs).request.target.toList).2
        = "unit=getty%40tty1.service&priority=3&since=-1h&q=login+failed".toList
      ∧ ∃ query, QueryOf (readTarget (PageCall.logs gettyLogs).request.target.toList).2 query
        ∧ query "unit" = "getty@tty1.service"
        ∧ ∃ argv, (filterFromQuery query).args false = .ok argv
          ∧ journalctlReads argv = some ⟨true, false, some "getty@tty1.service", some 3,
            some "-1h", none, some "login failed", some 200⟩ := by
  have hnamed : (PageCall.logs gettyLogs).Named := ⟨by decide, fun hraw => by cases hraw⟩
  let pairs := gettyLogs.arguments.map fun a => (a.1.toList, a.2.toList)
  have hdistinct : (pairs.map Prod.fst).Nodup := by decide +kernel
  have hwritten : (readTarget (PageCall.logs gettyLogs).request.target.toList).2
      = writeQuery formComponent pairs := by decide +kernel
  -- the reader that looks the keys up
  let query : String → String := fun key => String.ofList ((pairs.lookup key.toList).getD [])
  have hread : QueryOf (readTarget (PageCall.logs gettyLogs).request.target.toList).2 query := by
    refine ⟨?_⟩
    rw [hwritten]
    simpa [query] using reads_lookup formComponent hdistinct
  obtain ⟨hvalue, hlogs, -⟩ := page_query_read hnamed hread
  refine ⟨by decide +kernel, query, hread, ?_, ?_⟩
  · rw [hvalue "unit" (by decide)]
    decide +kernel
  · have hasks := hlogs gettyLogs rfl
    have hfaults : gettyLogs.filter.faults = [] := by decide +kernel
    cases hargs : (filterFromQuery query).args false with
    | error err =>
        rw [hargs, hfaults] at hasks
        cases hasks
    | ok argv =>
        rw [hargs] at hasks
        refine ⟨argv, rfl, hasks.2.trans ?_⟩
        decide +kernel

end ControlRoom
