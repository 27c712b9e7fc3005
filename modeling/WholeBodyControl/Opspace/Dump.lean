import WholeBodyControl.Opspace.Parameter

/-! `ParameterLog::writeFiles`: the file each logged parameter is dumped to, its name and its
text, and why no two of them share a name. -/
namespace WholeBodyControl.Opspace
open Eigen

variable {K : Type}

/-- What `writeFiles` leaves to the library: `operator<<`, `pretty_print` and `pretty_string`. -/
structure Printer (K : Type) where
  real : K → String
  vector : DVec K → String
  coeff : K → String

/-- The text one recorded value adds to its file, as the loop of its log prints it. -/
def Printer.entry (pr : Printer K) : Value K → String
  | .integer i => toString i ++ "\n"
  | .string s => s ++ "\n"
  | .real x => pr.real x ++ "\n"
  | .vector v => pr.vector v
  | .matrix m => toString m.rows ++ "  " ++ toString m.cols ++
      String.join ((List.finRange m.rows).map fun k =>
        "   " ++ String.join ((List.finRange m.cols).map fun l => pr.coeff (m.coeff k l))) ++ "\n"

/-- `prefix + "-" + name + "-" + log.parameter->name_ + ".dump"`. -/
def dumpName (pfx name : String) (p : Parameter) : String :=
  pfx ++ "-" ++ name ++ "-" ++ p.name ++ ".dump"

/-- One entry's file: written when the entry recorded something and `std::ofstream` opens it. -/
def dumpFile (pr : Printer K) (opens : String → Bool) (pfx name typeName extra : String)
    (e : LogEntry K) : Option (String × String) :=
  if e.log.isEmpty then none
  else if opens (dumpName pfx name e.parameter) then some (dumpName pfx name e.parameter,
    "# name: " ++ name ++ "\n" ++ "# parameter: " ++ e.parameter.name ++ "\n" ++
      "# type: " ++ typeName ++ "\n" ++ "# size: " ++ toString e.log.length ++ "\n" ++ extra ++
      String.join (e.log.map pr.entry))
  else none

/-- `writeFiles(prefix, progress)` of the log `name`: the files it writes, with their text. -/
def writeFiles (pr : Printer K) (opens : String → Bool) (pfx name : String) (pl : ParameterLog K) :
    List (String × String) :=
  pl.intlog.filterMap (dumpFile pr opens pfx name "integer" "") ++
    pl.strlog.filterMap (dumpFile pr opens pfx name "string" "") ++
    pl.reallog.filterMap (dumpFile pr opens pfx name "real" "") ++
    pl.veclog.filterMap (dumpFile pr opens pfx name "vector" "") ++
    pl.mxlog.filterMap
      (dumpFile pr opens pfx name "matrix" "# line format: nrows ncols row_0 row_1 ...\n")

/-! ### The names of the files -/

theorem dumpName_injective (pfx name : String) :
    Function.Injective fun n : String => pfx ++ "-" ++ name ++ "-" ++ n ++ ".dump" :=
  fun a b h => by simpa [String.ext_iff] using h

theorem filterMap_dumpFile_fst (pr : Printer K) (opens : String → Bool)
    (pfx name typeName extra : String) (l : List (LogEntry K)) :
    (l.filterMap (dumpFile pr opens pfx name typeName extra)).map Prod.fst =
      ((l.filter fun e => !e.log.isEmpty).map fun e => dumpName pfx name e.parameter).filter
        opens := by
  induction l with
  | nil => rfl
  | cons e l ih =>
    by_cases h : e.log.isEmpty
    · simp [dumpFile, h, ih]
    · cases ho : opens (dumpName pfx name e.parameter) <;> simp [dumpFile, h, ho, ih]

/-- The types of the five logs, in the order `writeFiles` writes them. -/
def loggedTypes : List ParameterType := [.INTEGER, .STRING, .REAL, .VECTOR, .MATRIX]

theorem writeFiles_names (pr : Printer K) (opens : String → Bool) (pfx name : String)
    (pl : ParameterLog K) :
    (writeFiles pr opens pfx name pl).map Prod.fst =
      (((loggedTypes.flatMap pl.logOf).filter fun e => !e.log.isEmpty).map fun e =>
        dumpName pfx name e.parameter).filter opens := by
  simp only [writeFiles, List.map_append, filterMap_dumpFile_fst, loggedTypes, List.flatMap_cons,
    List.flatMap_nil, List.append_nil, List.filter_append, ParameterLog.logOf, List.append_assoc]

/-! ### Names are keys -/

theorem mapInsert_keys_nodup {m : List (String × Parameter)} (hm : (m.map Prod.fst).Nodup)
    (k : String) (v : Parameter) : ((mapInsert m k v).map Prod.fst).Nodup := by
  unfold mapInsert
  split
  · exact hm
  · next h =>
    rw [List.map_append, List.nodup_append]
    refine ⟨hm, List.nodup_singleton k, fun x hx hk => ?_⟩
    rw [List.mem_singleton.mp hk] at hx
    obtain ⟨⟨k', p⟩, hmem, rfl⟩ := List.mem_map.mp hx
    exact h (List.any_eq_true.mpr ⟨_, hmem, beq_self_eq_true k'⟩)

namespace ParameterReflection

theorem Reachable.keys_nodup {r : ParameterReflection} (hr : r.Reachable) :
    (r.parameterLookup.map Prod.fst).Nodup := by
  induction hr with
  | empty => exact List.nodup_nil
  | declare name storage flags _ ih => exact mapInsert_keys_nodup ih _ _

theorem Reachable.held_names_nodup {r : ParameterReflection} (hr : r.Reachable) :
    (r.held.map Parameter.name).Nodup := by
  let sorted := r.parameterLookup.mergeSort fun a b => decide (a.1 ≤ b.1)
  have hkeys : sorted.map (Parameter.name ∘ Prod.snd) = sorted.map Prod.fst :=
    List.map_congr_left fun kp hkp => hr.wellFormed.name kp.1 kp.2 (List.mem_mergeSort.mp hkp)
  rw [held, List.map_map, hkeys]
  exact ((List.mergeSort_perm _ _).map Prod.fst).nodup_iff.mpr hr.keys_nodup

end ParameterReflection

theorem nodup_flatMap_filter {α β γ : Type} [DecidableEq γ] {l : List α} {f : α → β}
    (hl : (l.map f).Nodup) (g : α → γ) (P : α → Prop) [DecidablePred P] {ts : List γ}
    (hts : ts.Nodup) : ((ts.flatMap fun t => l.filter fun a => g a = t ∧ P a).map f).Nodup := by
  induction ts with
  | nil => exact List.nodup_nil
  | cons t ts ih =>
    obtain ⟨hts', hts⟩ := List.nodup_cons.mp hts
    rw [List.flatMap_cons, List.map_append, List.nodup_append]
    refine ⟨hl.sublist ((List.filter_sublist l).map f), ih hts, fun x hx hx' => ?_⟩
    obtain ⟨a, ha, rfl⟩ := List.mem_map.mp hx
    obtain ⟨b, hb, hab⟩ := List.mem_map.mp hx'
    obtain ⟨t', ht', hb⟩ := List.mem_flatMap.mp hb
    have ha' := List.mem_filter.mp ha
    have hb' := List.mem_filter.mp hb
    have := List.inj_on_of_nodup_map hl hb'.1 ha'.1 hab
    subst this
    simp only [decide_eq_true_eq] at ha' hb'
    exact hts' (ha'.2.1 ▸ hb'.2.1 ▸ ht')

namespace ParameterLog

theorem flatMap_logOf_updates (nolog : ℕ) (r : ParameterReflection) (ms : List (Memory K)) :
    (loggedTypes.flatMap (ms.foldl (fun pl mem => pl.update mem) (make nolog r)).logOf).map
        LogEntry.parameter =
      loggedTypes.flatMap fun t => r.held.filter fun p => p.type = t ∧ p.flags &&& nolog = 0 := by
  simp only [loggedTypes, List.flatMap_cons, List.flatMap_nil, List.append_nil, List.map_append,
    logOf_updates, List.map_map]
  simp only [logOf_make nolog r (by decide : ParameterType.INTEGER ≠ .VOID),
    logOf_make nolog r (by decide : ParameterType.STRING ≠ .VOID),
    logOf_make nolog r (by decide : ParameterType.REAL ≠ .VOID),
    logOf_make nolog r (by decide : ParameterType.VECTOR ≠ .VOID),
    logOf_make nolog r (by decide : ParameterType.MATRIX ≠ .VOID), List.map_map]
  simp [Function.comp_def]

end ParameterLog

theorem writeFiles_names_nodup_of (pr : Printer K) (opens : String → Bool) (pfx name : String)
    {pl : ParameterLog K}
    (h : ((loggedTypes.flatMap pl.logOf).map fun e => e.parameter.name).Nodup) :
    ((writeFiles pr opens pfx name pl).map Prod.fst).Nodup := by
  rw [writeFiles_names]
  have hsub : List.Sublist ((loggedTypes.flatMap pl.logOf).filter fun e => !e.log.isEmpty)
      (loggedTypes.flatMap pl.logOf) := List.filter_sublist _
  refine List.Nodup.filter _ ?_
  simpa only [List.map_map] using (h.sublist (hsub.map _)).map (dumpName_injective pfx name)

/-- `writeFiles` never writes two files of one name, so no dump overwrites another. -/
theorem writeFiles_names_nodup (pr : Printer K) (opens : String → Bool) (pfx name : String)
    (nolog : ℕ) {r : ParameterReflection} (hr : r.Reachable) (ms : List (Memory K)) :
    ((writeFiles pr opens pfx name (ms.foldl (fun pl mem => pl.update mem)
      (ParameterLog.make nolog r))).map Prod.fst).Nodup := by
  have hnames := nodup_flatMap_filter hr.held_names_nodup Parameter.type
    (fun p => p.flags &&& nolog = 0) (by decide : loggedTypes.Nodup)
  rw [← ParameterLog.flatMap_logOf_updates nolog r ms, List.map_map] at hnames
  exact writeFiles_names_nodup_of pr opens pfx name hnames

theorem writeFiles_names_nodup_kp_kd :
    let r := ((ParameterReflection.empty.declareParameter "kp" (.real 0) 0).1.declareParameter
      "kd" (.vector 1) 0).1
    let mem : Memory ℕ := ⟨fun _ => 0, fun _ => "", fun _ => 1, fun _ => ⟨1, fun _ => 2⟩,
      fun _ => ⟨0, 0, fun _ _ => 0⟩⟩
    r.Reachable ∧
      ((writeFiles (⟨toString, fun _ => "", toString⟩ : Printer ℕ) (fun _ => true) "run" "tp"
        ([mem, mem].foldl (fun pl mem => pl.update mem) (ParameterLog.make 1 r))).map
          Prod.fst).Nodup :=
  have hr := ParameterReflection.Reachable.declare "kd" (.vector 1) 0
    (.declare "kp" (.real 0) 0 .empty)
  ⟨hr, writeFiles_names_nodup _ _ "run" "tp" 1 hr _⟩

/-! ### What the files hold -/

theorem dumpFile_eq_some {pr : Printer K} {opens : String → Bool}
    {pfx name typeName extra : String} {e : LogEntry K} {file : String × String}
    (h : dumpFile pr opens pfx name typeName extra e = some file) :
    opens (dumpName pfx name e.parameter) = true ∧
      file = (dumpName pfx name e.parameter,
        "# name: " ++ name ++ "\n" ++ "# parameter: " ++ e.parameter.name ++ "\n" ++
          "# type: " ++ typeName ++ "\n" ++ "# size: " ++ toString e.log.length ++ "\n" ++
          extra ++ String.join (e.log.map pr.entry)) := by
  unfold dumpFile at h
  split_ifs at h with he ho
  exact ⟨ho, (Option.some.inj h).symm⟩

namespace ParameterLog

theorem mem_logOf_updates {nolog : ℕ} {r : ParameterReflection} {ms : List (Memory K)}
    {t : ParameterType} {e : LogEntry K}
    (h : e ∈ (ms.foldl (fun pl mem => pl.update mem) (make nolog r)).logOf t) :
    e.parameter ∈ r.held ∧ e.parameter.type = t ∧ e.parameter.flags &&& nolog = 0 ∧
      e.log = ms.map fun mem => mem.read e.parameter.storage := by
  rw [logOf_updates] at h
  obtain ⟨e₀, he₀, rfl⟩ := List.mem_map.mp h
  by_cases ht : t = .VOID
  · subst ht; cases he₀
  rw [logOf_make nolog r ht] at he₀
  obtain ⟨p, hp, rfl⟩ := List.mem_map.mp he₀
  obtain ⟨hheld, hp⟩ := List.mem_filter.mp hp
  have hp : p.type = t ∧ p.flags &&& nolog = 0 := by simpa using hp
  exact ⟨hheld, hp.1, hp.2, List.nil_append _⟩

end ParameterLog

/-- The type, type name and extra header line of each of the five loops of `writeFiles`. -/
def dumpHeaders : List (ParameterType × String × String) :=
  [(.INTEGER, "integer", ""), (.STRING, "string", ""), (.REAL, "real", ""),
    (.VECTOR, "vector", ""), (.MATRIX, "matrix", "# line format: nrows ncols row_0 row_1 ...\n")]

section Updates
variable (pr : Printer K) (opens : String → Bool) (pfx name : String) (nolog : ℕ)
  (r : ParameterReflection) (ms : List (Memory K))

theorem mem_filterMap_dumpFile_updates (t : ParameterType) {typeName extra : String}
    (ht : (t, typeName, extra) ∈ dumpHeaders) {file : String × String}
    (h : file ∈ ((ms.foldl (fun pl mem => pl.update mem) (ParameterLog.make nolog r)).logOf
      t).filterMap (dumpFile pr opens pfx name typeName extra)) :
    ∃ p ∈ r.held, p.flags &&& nolog = 0 ∧ opens (dumpName pfx name p) = true ∧
      ∃ typeName extra, (p.type, typeName, extra) ∈ dumpHeaders ∧
      file = (dumpName pfx name p,
        "# name: " ++ name ++ "\n" ++ "# parameter: " ++ p.name ++ "\n" ++
          "# type: " ++ typeName ++ "\n" ++ "# size: " ++ toString ms.length ++ "\n" ++
          extra ++ String.join (ms.map fun mem => pr.entry (mem.read p.storage))) := by
  obtain ⟨e, he, hf⟩ := List.mem_filterMap.mp h
  obtain ⟨hheld, htype, hflags, hlog⟩ := ParameterLog.mem_logOf_updates he
  obtain ⟨ho, hfile⟩ := dumpFile_eq_some hf
  refine ⟨e.parameter, hheld, hflags, ho, typeName, extra, htype ▸ ht, ?_⟩
  rw [hfile, hlog, List.length_map, List.map_map]
  rfl

/-- The files `writeFiles` writes after any run of `update`s, and the text of each. -/
theorem writeFiles_updates :
    (writeFiles pr opens pfx name (ms.foldl (fun pl mem => pl.update mem)
        (ParameterLog.make nolog r))).map Prod.fst =
        (if ms.isEmpty then []
        else ((loggedTypes.flatMap fun t =>
          r.held.filter fun p => p.type = t ∧ p.flags &&& nolog = 0).map
            (dumpName pfx name)).filter opens) ∧
      ∀ file ∈ writeFiles pr opens pfx name (ms.foldl (fun pl mem => pl.update mem)
        (ParameterLog.make nolog r)), ∃ p ∈ r.held, p.flags &&& nolog = 0 ∧
        opens (dumpName pfx name p) = true ∧
        ∃ typeName extra, (p.type, typeName, extra) ∈ dumpHeaders ∧
        file = (dumpName pfx name p,
          "# name: " ++ name ++ "\n" ++ "# parameter: " ++ p.name ++ "\n" ++
            "# type: " ++ typeName ++ "\n" ++ "# size: " ++ toString ms.length ++ "\n" ++
            extra ++ String.join (ms.map fun mem => pr.entry (mem.read p.storage))) := by
  refine ⟨?_, fun file h => ?_⟩
  · have hlog : ∀ e ∈ loggedTypes.flatMap (ms.foldl (fun pl mem => pl.update mem)
        (ParameterLog.make nolog r)).logOf, (!e.log.isEmpty) = !ms.isEmpty := by
      intro e he
      obtain ⟨t, -, he⟩ := List.mem_flatMap.mp he
      rw [(ParameterLog.mem_logOf_updates he).2.2.2]
      cases ms <;> rfl
    rw [writeFiles_names, List.filter_congr hlog]
    cases hms : ms.isEmpty
    · rw [← ParameterLog.flatMap_logOf_updates nolog r ms, List.map_map]
      simp [Function.comp_def]
    · simp
  · simp only [writeFiles, List.mem_append] at h
    rcases h with (((h | h) | h) | h) | h
    · exact mem_filterMap_dumpFile_updates pr opens pfx name nolog r ms .INTEGER
        (by simp [dumpHeaders]) h
    · exact mem_filterMap_dumpFile_updates pr opens pfx name nolog r ms .STRING
        (by simp [dumpHeaders]) h
    · exact mem_filterMap_dumpFile_updates pr opens pfx name nolog r ms .REAL
        (by simp [dumpHeaders]) h
    · exact mem_filterMap_dumpFile_updates pr opens pfx name nolog r ms .VECTOR
        (by simp [dumpHeaders]) h
    · exact mem_filterMap_dumpFile_updates pr opens pfx name nolog r ms .MATRIX
        (by simp [dumpHeaders]) h

end Updates

end WholeBodyControl.Opspace
