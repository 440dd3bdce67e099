import MatrixOneOperator.StartScript

/-!
# The instance config and the run of the DN start script

The two `sed "/re/r file"` passes that put the instance's lines into the rendered config,
the loop that waits for the pod's address to resolve, and the `exec` of the service.
-/

namespace MatrixOneOperator

/-! ## `sed` -/

/-- The pattern, of literal characters and `.` (`none`), matches at the start of `cs`. -/
def matchesAt : List (Option Char) → List Char → Bool
  | [], _ => true
  | _ :: _, [] => false
  | p :: ps, c :: cs => p.all (· = c) && matchesAt ps cs

/-- A `sed` address: the pattern matches somewhere in the line. -/
def patternFound (pat : List (Option Char)) : List Char → Bool
  | [] => matchesAt pat []
  | c :: cs => matchesAt pat (c :: cs) || patternFound pat cs

/-- `\[dn\]`. -/
def dnSection : List (Option Char) := "[dn]".data.map some

/-- `\[dn.lockservice\]`. -/
def lockServiceSection : List (Option Char) :=
  "[dn".data.map some ++ none :: "lockservice]".data.map some

/-- `sed "/re/r file"`: each line, followed by the file's lines where the address matches. -/
def sedReadAfter (pat : List (Option Char)) (file lines : List String) : List String :=
  lines.flatMap fun l => if patternFound pat l.data then l :: file else [l]

/-- The lines of `${bc}`. -/
def dnInstanceLines (uuid address : String) (dnServicePort : Nat) : List String :=
  ["uuid = \"" ++ uuid ++ "\"",
    "service-address = \"" ++ address ++ ":" ++ ⟨numeral 10 dnServicePort⟩ ++ "\""]

/-- The line of `${lsc}`. -/
def lockServiceLines (address : String) (lockServicePort : Nat) : List String :=
  ["service-address = \"" ++ address ++ ":" ++ ⟨numeral 10 lockServicePort⟩ ++ "\""]

/-- `${conf}` after both `sed`s. -/
def instanceConfig (uuid address : String) (dnServicePort lockServicePort : Nat)
    (config : List String) : List String :=
  sedReadAfter lockServiceSection (lockServiceLines address lockServicePort)
    (sedReadAfter dnSection (dnInstanceLines uuid address dnServicePort) config)

theorem patternFound_of_not_mem {c : Char} (ps : List (Option Char)) {cs : List Char}
    (h : c ∉ cs) : patternFound (some c :: ps) cs = false := by
  induction cs with
  | nil => rfl
  | cons d cs ih =>
    rw [List.mem_cons, not_or] at h
    simp [patternFound, matchesAt, h.1, ih h.2]

@[simp] theorem sedReadAfter_nil (pat : List (Option Char)) (file : List String) :
    sedReadAfter pat file [] = [] := rfl

theorem sedReadAfter_cons (pat : List (Option Char)) (file : List String) (l : String)
    (lines : List String) :
    sedReadAfter pat file (l :: lines) =
      (if patternFound pat l.data then l :: file else [l]) ++ sedReadAfter pat file lines :=
  List.flatMap_cons _ _ _

theorem sedReadAfter_append (pat : List (Option Char)) (file l l' : List String) :
    sedReadAfter pat file (l ++ l') = sedReadAfter pat file l ++ sedReadAfter pat file l' :=
  List.flatMap_append _ _ _

theorem sedReadAfter_of_forall {pat : List (Option Char)} (file : List String) {lines : List String}
    (h : ∀ l ∈ lines, patternFound pat l.data = false) : sedReadAfter pat file lines = lines := by
  induction lines with
  | nil => rfl
  | cons l lines ih =>
    rw [sedReadAfter_cons, h l (List.mem_cons_self _ _), if_neg Bool.false_ne_true]
    exact congrArg _ (ih fun l' hl' => h l' (List.mem_cons_of_mem _ hl'))

theorem bracket_not_mem_numeral {b : Nat} (hb2 : 2 ≤ b) (hb : b ≤ 16) (n : Nat) :
    '[' ∉ numeral b n := by
  intro h
  obtain ⟨d, hd, he⟩ := List.mem_map.1 h
  have hlt := numeralDigits_lt hb2 n d hd
  have hc : charValue '[' = none := by decide
  exact digitChar_ne_of_charValue (by omega) (by simp [hc]) he

/-- Neither address matches a line the first `sed` inserts, when the UUID and the address
hold no `[`. -/
theorem lockServiceSection_dnInstanceLines {uuid address : String} (hu : '[' ∉ uuid.data)
    (ha : '[' ∉ address.data) (dnServicePort : Nat) :
    ∀ l ∈ dnInstanceLines uuid address dnServicePort, patternFound lockServiceSection l.data = false := by
  have hn := bracket_not_mem_numeral (b := 10) (by norm_num) (by norm_num) dnServicePort
  simp only [dnInstanceLines, List.mem_cons, List.not_mem_nil, or_false, forall_eq_or_imp, forall_eq]
  constructor <;> refine patternFound_of_not_mem _ ?_ <;> simp [hu, ha, hn]

/-- The two `sed`s are one pass over the rendered config: after each line, the lock
service's address where it matches `\[dn.lockservice\]`, then the UUID and the service
address where it matches `\[dn\]`. -/
theorem instanceConfig_eq {uuid address : String} (hu : '[' ∉ uuid.data) (ha : '[' ∉ address.data)
    (dnServicePort lockServicePort : Nat) (config : List String) :
    instanceConfig uuid address dnServicePort lockServicePort config =
      config.flatMap fun l => l ::
        ((if patternFound lockServiceSection l.data then lockServiceLines address lockServicePort else []) ++
          if patternFound dnSection l.data then dnInstanceLines uuid address dnServicePort else []) := by
  have hbc := sedReadAfter_of_forall (lockServiceLines address lockServicePort)
    (lockServiceSection_dnInstanceLines hu ha dnServicePort)
  induction config with
  | nil => rfl
  | cons l config ih =>
    rw [instanceConfig] at ih ⊢
    rw [sedReadAfter_cons dnSection, sedReadAfter_append, ih, List.flatMap_cons]
    congr 1
    by_cases hd : patternFound dnSection l.data <;> by_cases hl : patternFound lockServiceSection l.data <;>
      simp [hd, hl, sedReadAfter_cons, hbc]

/-! ## Waiting for the pod's address -/

/-- The `while true` loop from `elapseTime` seconds, with at most `fuel` passes;
`resolvable t` is the lookup's answer after `t` seconds. -/
def waitResolvable (period threshold : Nat) (resolvable : Nat → Bool) :
    Nat → Nat → Option (Except String Nat)
  | 0, _ => none
  | fuel + 1, elapseTime =>
    let elapseTime := elapseTime + period
    if elapseTime ≥ threshold then some (.error "waiting for dns resolvable timeout")
    else if resolvable elapseTime then some (.ok elapseTime)
    else waitResolvable period threshold resolvable fuel elapseTime

/-- The seconds at which the loop looks the address up: every `period`, below `threshold`. -/
def lookupTimes (period threshold elapseTime : Nat) : List Nat :=
  List.range' (elapseTime + period) ((threshold - 1 - elapseTime) / period) period

theorem lookupTimes_of_le {period threshold elapseTime : Nat} (hp : 0 < period)
    (h : threshold ≤ elapseTime + period) :
    lookupTimes period threshold elapseTime = [] := by
  rw [lookupTimes, Nat.div_eq_of_lt (by omega)]
  rfl

theorem lookupTimes_of_lt {period threshold elapseTime : Nat} (hp : 0 < period)
    (h : elapseTime + period < threshold) :
    lookupTimes period threshold elapseTime =
      (elapseTime + period) :: lookupTimes period threshold (elapseTime + period) := by
  rw [lookupTimes, lookupTimes, Nat.div_eq_sub_div hp (by omega), List.range'_succ,
    show threshold - 1 - elapseTime - period = threshold - 1 - (elapseTime + period) by omega]

theorem waitResolvable_eq {period threshold : Nat} (hp : 0 < period) (resolvable : Nat → Bool)
    {fuel elapseTime : Nat} (hfuel : (threshold - 1 - elapseTime) / period < fuel) :
    waitResolvable period threshold resolvable fuel elapseTime =
      some (((lookupTimes period threshold elapseTime).find? resolvable).elim
        (.error "waiting for dns resolvable timeout") .ok) := by
  induction fuel generalizing elapseTime with
  | zero => exact absurd hfuel (Nat.not_lt_zero _)
  | succ fuel ih =>
    rw [waitResolvable]
    by_cases h : elapseTime + period ≥ threshold
    · rw [if_pos h, lookupTimes_of_le hp h]
      rfl
    · rw [if_neg h, lookupTimes_of_lt hp (by omega), List.find?_cons]
      cases hr : resolvable (elapseTime + period)
      · rw [Nat.div_eq_sub_div hp (by omega)] at hfuel
        rw [if_neg Bool.false_ne_true]
        exact ih (by rwa [Nat.sub_sub, Nat.add_lt_add_iff_right] at hfuel)
      · rfl

/-! ## The script's run -/

/-- A run of `startScriptTpl` in a container with env `env`, on the rendered config's
lines. The loop gets thirty passes, as many as it can make (`waitResolvable_eq`). -/
def runStartScript (rt : PodRuntime) (env : List EnvVar) (dnServicePort lockServicePort : Nat)
    (config : List String) : ScriptExit :=
  match scriptIdentity rt env with
  | .error e => e
  | .ok (address, uuid) =>
    let conf := instanceConfig uuid address dnServicePort lockServicePort config
    match waitResolvable 1 30 rt.resolvable 30 0 with
    | some (.ok _) => .exec conf
    | _ => .dnsTimeout

theorem waitResolvable_script (resolvable : Nat → Bool) :
    waitResolvable 1 30 resolvable 30 0 =
      some (((List.range' 1 29).find? resolvable).elim
        (.error "waiting for dns resolvable timeout") .ok) :=
  waitResolvable_eq Nat.one_pos resolvable (by decide)

theorem runStartScript_of_identity {rt : PodRuntime} {env : List EnvVar} {address uuid : String}
    (h : scriptIdentity rt env = .ok (address, uuid)) (dnServicePort lockServicePort : Nat)
    (config : List String) :
    runStartScript rt env dnServicePort lockServicePort config =
      if ∃ t ∈ List.range' 1 29, rt.resolvable t then
        .exec (instanceConfig uuid address dnServicePort lockServicePort config)
      else .dnsTimeout := by
  simp only [runStartScript, h, waitResolvable_script]
  cases hf : (List.range' 1 29).find? rt.resolvable with
  | none =>
    rw [if_neg (by simpa using List.find?_eq_none.1 hf)]
    rfl
  | some t =>
    rw [if_pos ⟨t, List.mem_of_find?_eq_some hf, List.find?_some hf⟩]
    rfl

/-- Once the script has its address and UUID, it starts the service when a lookup within
29 seconds succeeds, on the config `instanceConfig_eq` describes, and times out otherwise. -/
theorem runStartScript_eq {rt : PodRuntime} {env : List EnvVar} {address uuid : String}
    (h : scriptIdentity rt env = .ok (address, uuid)) (hu : '[' ∉ uuid.data)
    (ha : '[' ∉ address.data) (dnServicePort lockServicePort : Nat) (config : List String) :
    runStartScript rt env dnServicePort lockServicePort config =
      if ∃ t ∈ List.range' 1 29, rt.resolvable t then
        .exec (config.flatMap fun l => l ::
          ((if patternFound lockServiceSection l.data then
              lockServiceLines address lockServicePort else []) ++
            if patternFound dnSection l.data then
              dnInstanceLines uuid address dnServicePort else []))
      else .dnsTimeout := by
  rw [← instanceConfig_eq hu ha]
  exact runStartScript_of_identity h dnServicePort lockServicePort config

theorem runStartScript_eq_dn0 :
    let env : List EnvVar := [{ name := "POD_NAME" },
      { name := "HEADLESS_SERVICE_NAME", value := "dn-headless" }, { name := "NAMESPACE", value := "default" }]
    scriptIdentity (ordinalRuntime "dn" 0) env = .ok ("dn-0.dn-headless.default.svc", uuidOf 0) ∧
    '[' ∉ (uuidOf 0).data ∧ '[' ∉ "dn-0.dn-headless.default.svc".data ∧
    runStartScript (ordinalRuntime "dn" 0) env 6000 6001 ["[dn]"] =
      if ∃ t ∈ List.range' 1 29, (ordinalRuntime "dn" 0).resolvable t then
        .exec (["[dn]"].flatMap fun l => l ::
          ((if patternFound lockServiceSection l.data then
              lockServiceLines "dn-0.dn-headless.default.svc" 6001 else []) ++
            if patternFound dnSection l.data then
              dnInstanceLines (uuidOf 0) "dn-0.dn-headless.default.svc" 6000 else []))
      else .dnsTimeout := by
  intro env
  have h : scriptIdentity (ordinalRuntime "dn" 0) env = .ok ("dn-0.dn-headless.default.svc", uuidOf 0) := rfl
  have hu : '[' ∉ (uuidOf 0).data := by decide
  have ha : '[' ∉ "dn-0.dn-headless.default.svc".data := by decide
  exact ⟨h, hu, ha, runStartScript_eq h hu ha 6000 6001 ["[dn]"]⟩

/-! ## The pods of a DN set -/

section
variable (ext : Externals)

end

end MatrixOneOperator
