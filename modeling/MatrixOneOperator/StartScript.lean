import Mathlib.Data.Nat.Digits
import Mathlib.Data.List.Basic
import MatrixOneOperator.DNSet

/-!
# The identity lines of the DN start script

`POD_NAME`, `ADDR`, `ORDINAL` and `UUID` of `startScriptTpl`, with `/bin/sh` taken as dash:
`printf %x` reads its arguments as dash's `getuintmax` and glibc's `strtoumax` do. What the
script reads besides its text is a `PodRuntime`.
-/

namespace MatrixOneOperator

/-! ## Numerals -/

/-- The digits of `n` in base `b`, most significant first; zero has the one digit `0`. -/
def numeralDigits (b n : Nat) : List Nat :=
  if n = 0 then [0] else (Nat.digits b n).reverse

/-- The numeral `%d` (base 10) and `%x` (base 16) print. -/
def numeral (b n : Nat) : List Char := (numeralDigits b n).map Nat.digitChar

def charValue (c : Char) : Option Nat :=
  if '0' ≤ c ∧ c ≤ '9' then some (c.toNat - '0'.toNat)
  else if 'a' ≤ c ∧ c ≤ 'f' then some (c.toNat - 'a'.toNat + 10)
  else if 'A' ≤ c ∧ c ≤ 'F' then some (c.toNat - 'A'.toNat + 10)
  else none

def digitValue (b : Nat) (c : Char) : Option Nat := (charValue c).filter (· < b)

/-- The number a digit string denotes in base `b`; none for no digits or a non-digit. -/
def digitsValue (b : Nat) (cs : List Char) : Option Nat :=
  if cs = [] then none else (cs.mapM (digitValue b)).map fun ds => Nat.ofDigits b ds.reverse

theorem charValue_digitChar {d : Nat} (hd : d < 16) : charValue (Nat.digitChar d) = some d := by
  have h : ∀ d : Fin 16, charValue (Nat.digitChar d) = some d := by decide
  exact h ⟨d, hd⟩

theorem charValue_dash : charValue '-' = none := by decide

theorem digitChar_ne_of_charValue {d : Nat} (hd : d < 16) {c : Char} (hc : charValue c ≠ some d) :
    Nat.digitChar d ≠ c :=
  fun h => hc (h ▸ charValue_digitChar hd)

theorem digitValue_digitChar {b d : Nat} (hb : b ≤ 16) (hd : d < b) :
    digitValue b (Nat.digitChar d) = some d := by
  simp [digitValue, charValue_digitChar (lt_of_lt_of_le hd hb), Option.filter, hd]

theorem mapM_digitValue {b : Nat} (hb : b ≤ 16) {ds : List Nat} (h : ∀ d ∈ ds, d < b) :
    (ds.map Nat.digitChar).mapM (digitValue b) = some ds := by
  induction ds with
  | nil => rfl
  | cons d ds ih =>
    rw [List.map_cons, List.mapM_cons, digitValue_digitChar hb (h d (List.mem_cons_self _ _)),
      ih fun d' hd' => h d' (List.mem_cons_of_mem _ hd')]
    rfl

theorem numeralDigits_lt {b : Nat} (hb : 2 ≤ b) (n : Nat) : ∀ d ∈ numeralDigits b n, d < b := by
  unfold numeralDigits
  split
  · simp only [List.mem_singleton, forall_eq]; omega
  · intro d hd
    exact Nat.digits_lt_base hb (List.mem_reverse.1 hd)

theorem ofDigits_replicate_zero (b k : Nat) : Nat.ofDigits b (List.replicate k 0) = 0 := by
  induction k with
  | zero => rfl
  | succ k ih => simp [List.replicate_succ, Nat.ofDigits_cons, ih]

theorem ofDigits_reverse_numeralDigits (b n : Nat) :
    Nat.ofDigits b (numeralDigits b n).reverse = n := by
  unfold numeralDigits
  split
  · subst n; rfl
  · rw [List.reverse_reverse, Nat.ofDigits_digits]

theorem digitsValue_zeros_numeral {b : Nat} (hb2 : 2 ≤ b) (hb : b ≤ 16) (k n : Nat) :
    digitsValue b (List.replicate k '0' ++ numeral b n) = some n := by
  have hcs : List.replicate k '0' ++ numeral b n = (List.replicate k 0 ++ numeralDigits b n).map Nat.digitChar := by
    rw [List.map_append, List.map_replicate]; rfl
  have hlt : ∀ d ∈ List.replicate k 0 ++ numeralDigits b n, d < b := by
    intro d hd
    rcases List.mem_append.1 hd with hd | hd
    · rw [List.eq_of_mem_replicate hd]; omega
    · exact numeralDigits_lt hb2 n d hd
  have hnd : numeralDigits b n ≠ [] := by
    unfold numeralDigits
    split <;> simp_all [Nat.digits_ne_nil_iff_ne_zero]
  have hne : List.replicate k '0' ++ numeral b n ≠ [] := by simp [numeral, hnd]
  rw [digitsValue, if_neg hne, hcs, mapM_digitValue hb hlt, Option.map_some', List.reverse_append,
    Nat.ofDigits_append, List.reverse_replicate, ofDigits_replicate_zero, mul_zero, add_zero,
    ofDigits_reverse_numeralDigits]

theorem numeral_head_ne_zero {b n : Nat} (hb2 : 2 ≤ b) (hb : b ≤ 16) (hn : n ≠ 0) :
    ∃ c cs, numeral b n = c :: cs ∧ c ≠ '0' := by
  have hne := Nat.digits_ne_nil_iff_ne_zero (b := b).2 hn
  have hlast := Nat.getLast_digit_ne_zero b hn
  have hlt := Nat.digits_lt_base (by omega) (List.getLast_mem hne)
  refine ⟨Nat.digitChar ((Nat.digits b n).getLast hne),
    (Nat.digits b n).dropLast.reverse.map Nat.digitChar, ?_,
    digitChar_ne_of_charValue (by omega) ?_⟩
  · conv_lhs => rw [numeral, numeralDigits, if_neg hn, ← List.dropLast_append_getLast hne]
    simp
  · rw [show '0' = Nat.digitChar 0 from rfl, charValue_digitChar (by norm_num)]
    exact fun h => hlast (Option.some_injective _ h).symm


/-! ## `printf '00000000-0000-0000-0000-1%011x' ${ORDINAL}` -/

/-- `isspace`. -/
def isSpace (c : Char) : Bool :=
  c = ' ' || c = '\t' || c = '\n' || c.toNat = 11 || c.toNat = 12 || c = '\r'

/-- The digits after the sign, in the base their prefix gives; none unless they are all
of the argument. -/
def unsignedValue : List Char → Option Nat
  | '0' :: 'x' :: ds | '0' :: 'X' :: ds => digitsValue 16 ds
  | '0' :: ds => digitsValue 8 ('0' :: ds)
  | ds => digitsValue 10 ds

/-- A value `uintmax_t` holds; above it `strtoumax` reports `ERANGE`. -/
def inRange (n : Nat) : Option Nat := if n < 2 ^ 64 then some n else none

/-- `strtoumax(s, &end, 0)` where `printf` accepts it: `end` at the end of `s` and no
`ERANGE`. -/
def strtoumax (cs : List Char) : Option Nat :=
  if cs = [] then some 0 else
    match cs.dropWhile isSpace with
    | '+' :: ds => (unsignedValue ds).bind inRange
    | '-' :: ds => ((unsignedValue ds).bind inRange).map fun n => (2 ^ 64 - n) % 2 ^ 64
    | ds => (unsignedValue ds).bind inRange

/-- dash's `getuintmax` on one argument: after a quote, the first byte of the next
character; otherwise `strtoumax`. none where `printf` exits with status 1. -/
def printfArg (arg : String) : Option Nat :=
  match arg.data with
  | c :: cs =>
    if c = '"' ∨ c.toNat = 39 then
      some ((cs.head?.map fun c => ((String.utf8EncodeChar c).headD 0).toNat).getD 0)
    else strtoumax (c :: cs)
  | [] => strtoumax []

/-- `%011x`: the hexadecimal numeral, zero-padded to eleven digits. -/
def hex011 (n : Nat) : List Char :=
  List.replicate (11 - (numeral 16 n).length) '0' ++ numeral 16 n

def uuidOf (n : Nat) : String := "00000000-0000-0000-0000-1" ++ ⟨hex011 n⟩

/-- `printf` runs its format once for each argument, and once on 0 when there is none. -/
def printfUUID (args : List String) : Option String :=
  if args = [] then some (uuidOf 0) else (args.mapM printfArg).map fun ns => String.join (ns.map uuidOf)

/-- The default `IFS`. -/
def isIFS (c : Char) : Bool := c = ' ' || c = '\t' || c = '\n'

def isGlobChar (c : Char) : Bool := c = '*' || c = '?' || c = '['

/-- The arguments an unquoted expansion gives: its fields between `IFS` characters, and
for a field with a pattern character the paths it matches, if any. -/
def unquotedFields (pathnames : String → List String) (s : String) : List String :=
  ((s.data.splitOnP isIFS).filter fun w => !w.isEmpty).flatMap fun w =>
    if w.any isGlobChar && !(pathnames ⟨w⟩).isEmpty then pathnames ⟨w⟩ else [⟨w⟩]

/-- `ORDINAL=${POD_NAME##*-}`: what follows the last `-`, or the whole name when it has none. -/
def ordinalOf (podName : String) : String :=
  ⟨(podName.data.reverse.takeWhile (· ≠ '-')).reverse⟩

/-- `UUID=$(printf '00000000-0000-0000-0000-1%011x' ${ORDINAL})`; none where `set -e`
stops the script. -/
def ordinalUUID (pathnames : String → List String) (podName : String) : Option String :=
  printfUUID (unquotedFields pathnames (ordinalOf podName))

/-- The name of the `i`-th pod of a stateful set: `<set>-<i>`. -/
def podName (setName : String) (i : Nat) : String := setName ++ "-" ++ ⟨numeral 10 i⟩

theorem digitChar_ordinary {d : Nat} (hd : d < 16) :
    isSpace (Nat.digitChar d) = false ∧ isIFS (Nat.digitChar d) = false ∧
    isGlobChar (Nat.digitChar d) = false ∧ Nat.digitChar d ≠ '-' ∧ Nat.digitChar d ≠ '+' ∧
    Nat.digitChar d ≠ '"' ∧ (Nat.digitChar d).toNat ≠ 39 := by
  have h : ∀ d : Fin 16, isSpace (Nat.digitChar d) = false ∧ isIFS (Nat.digitChar d) = false ∧
      isGlobChar (Nat.digitChar d) = false ∧ Nat.digitChar d ≠ '-' ∧ Nat.digitChar d ≠ '+' ∧
      Nat.digitChar d ≠ '"' ∧ (Nat.digitChar d).toNat ≠ 39 := by decide
  exact h ⟨d, hd⟩

theorem exists_digitChar_of_mem_numeral {b n : Nat} (hb2 : 2 ≤ b) (hb : b ≤ 16) {c : Char}
    (h : c ∈ numeral b n) : ∃ d < 16, Nat.digitChar d = c := by
  obtain ⟨d, hd, rfl⟩ := List.mem_map.1 h
  exact ⟨d, by have := numeralDigits_lt hb2 n d hd; omega, rfl⟩

theorem numeral_ne_nil (b n : Nat) : numeral b n ≠ [] := by
  unfold numeral numeralDigits
  split <;> simp_all [Nat.digits_ne_nil_iff_ne_zero]

theorem strtoumax_of_head {c : Char} {cs : List Char} (hs : isSpace c = false) (hp : c ≠ '+')
    (hm : c ≠ '-') : strtoumax (c :: cs) = (unsignedValue (c :: cs)).bind inRange := by
  unfold strtoumax
  rw [if_neg (List.cons_ne_nil _ _), List.dropWhile_cons_of_neg (by simp [hs])]
  split <;> simp_all

theorem unsignedValue_of_head {c : Char} {cs : List Char} (hc : c ≠ '0') :
    unsignedValue (c :: cs) = digitsValue 10 (c :: cs) := by
  unfold unsignedValue
  split <;> simp_all

theorem printfArg_numeral (n : Nat) : printfArg ⟨numeral 10 n⟩ = inRange n := by
  rcases eq_or_ne n 0 with rfl | hn
  · rfl
  · obtain ⟨c, cs, hccs, hc⟩ := numeral_head_ne_zero (b := 10) (by norm_num) (by norm_num) hn
    obtain ⟨d, hd, rfl⟩ :=
      exists_digitChar_of_mem_numeral (by norm_num) (by norm_num) (hccs ▸ List.mem_cons_self _ _)
    obtain ⟨hs, -, -, hm, hp, hq, ha⟩ := digitChar_ordinary hd
    have hv := digitsValue_zeros_numeral (b := 10) (by norm_num) (by norm_num) 0 n
    rw [List.replicate_zero, List.nil_append, hccs] at hv
    simp only [printfArg, hccs, hq, ha, or_self, if_false]
    rw [strtoumax_of_head hs hp hm, unsignedValue_of_head hc, hv, Option.some_bind]

theorem unquotedFields_numeral (pathnames : String → List String) (n : Nat) :
    unquotedFields pathnames ⟨numeral 10 n⟩ = [⟨numeral 10 n⟩] := by
  have hc : ∀ c ∈ numeral 10 n, isIFS c = false ∧ isGlobChar c = false := fun c hc => by
    obtain ⟨d, hd, rfl⟩ := exists_digitChar_of_mem_numeral (by norm_num) (by norm_num) hc
    exact ⟨(digitChar_ordinary hd).2.1, (digitChar_ordinary hd).2.2.1⟩
  simp only [unquotedFields]
  rw [List.splitOnP_eq_single _ _ fun c h => by simp [(hc c h).1]]
  have hany : (numeral 10 n).any isGlobChar = false :=
    List.any_eq_false.2 fun c h => by simp [(hc c h).2]
  have hne : (!(numeral 10 n).isEmpty) = true := by simp [numeral_ne_nil]
  rw [List.filter_cons_of_pos (p := fun w : List Char => !w.isEmpty) hne, List.filter_nil,
    List.flatMap_cons, List.flatMap_nil, List.append_nil, hany, Bool.false_and, if_neg Bool.false_ne_true]

theorem ordinalOf_podName (setName : String) (i : Nat) :
    ordinalOf (podName setName i) = ⟨numeral 10 i⟩ := by
  have hdash : ∀ c ∈ (numeral 10 i).reverse, decide (c ≠ '-') = true := by
    intro c hc
    obtain ⟨d, hd, rfl⟩ :=
      exists_digitChar_of_mem_numeral (by norm_num) (by norm_num) (List.mem_reverse.1 hc)
    simpa using (digitChar_ordinary hd).2.2.2.1
  simp only [ordinalOf, podName, String.data_append, List.reverse_append]
  rw [List.takeWhile_append_of_pos hdash]
  simp

theorem hex011_inj {i j : Nat} (h : hex011 i = hex011 j) : i = j := by
  have hi := digitsValue_zeros_numeral (by norm_num) le_rfl (11 - (numeral 16 i).length) i
  have hj := digitsValue_zeros_numeral (by norm_num) le_rfl (11 - (numeral 16 j).length) j
  rw [← hex011, h, hex011] at hi
  exact Option.some_injective _ (hi.symm.trans hj)

theorem uuidOf_inj {i j : Nat} (h : uuidOf i = uuidOf j) : i = j := by
  have hd := congrArg String.data h
  simp only [uuidOf, String.data_append] at hd
  exact hex011_inj (List.append_cancel_left hd)

theorem ordinalUUID_podName_eq (pathnames : String → List String) (setName : String) (i : Nat) :
    ordinalUUID pathnames (podName setName i) = (inRange i).map uuidOf := by
  rw [ordinalUUID, ordinalOf_podName, unquotedFields_numeral, printfUUID, if_neg (List.cons_ne_nil _ _),
    List.mapM_cons, List.mapM_nil, printfArg_numeral]
  cases inRange i <;> rfl

/-- The `i`-th pod of a stateful set gets, from its ordinal, the UUID that ends in `1`
and `i` in at least eleven hexadecimal digits while `i` fits `uintmax_t`, and the script
stops from `2 ^ 64` on; below it, no two ordinals share a UUID. -/
theorem ordinalUUID_podName (pathnames : String → List String) (setName : String) (i : Nat) :
    ordinalUUID pathnames (podName setName i) = (inRange i).map uuidOf ∧
    ∀ j, i < 2 ^ 64 →
      ordinalUUID pathnames (podName setName i) = ordinalUUID pathnames (podName setName j) → i = j := by
  refine ⟨ordinalUUID_podName_eq pathnames setName i, fun j hi h => ?_⟩
  rw [ordinalUUID_podName_eq, ordinalUUID_podName_eq, inRange, if_pos hi, inRange] at h
  split at h
  · exact uuidOf_inj (Option.some_injective _ h)
  · cases h

theorem ordinalUUID_podName_three :
    (3 : Nat) < 2 ^ 64 ∧
      (ordinalUUID (fun _ => []) (podName "dn" 3) = ordinalUUID (fun _ => []) (podName "dn" 4) → 3 = 4) :=
  ⟨by norm_num, (ordinalUUID_podName (fun _ => []) "dn" 3).2 4 (by norm_num)⟩

/-! ## What the script reads -/

/-- What the start script reads besides its own text. -/
structure PodRuntime where
  /-- The kubelet's value of an env entry: `value` with `$(VAR)` expanded, or what its
  `valueFrom` source gives. -/
  resolve : EnvVar → String
  /-- The rest of the process environment: `HOSTNAME` and the image's `ENV`. -/
  baseEnv : String → Option String
  /-- The paths a pattern matches in the working directory. -/
  pathnames : String → List String
  /-- `echo ${ADDR} | sha256sum | od -x | head -1 | awk ...`. -/
  addressUUID : String → String
  /-- Whether `nslookup ${ADDR}` succeeds after that many seconds. -/
  resolvable : Nat → Bool

/-- A variable of the script's environment: the last env entry of the name, which is the
one the kubelet keeps, or the runtime's own. -/
def PodRuntime.var (rt : PodRuntime) (env : List EnvVar) (name : String) : Option String :=
  match env.reverse.find? (·.name = name) with
  | some e => some (rt.resolve e)
  | none => rt.baseEnv name

/-- How the start script ends. -/
inductive ScriptExit where
  /-- `set -u` stops on an unset variable. -/
  | unsetVariable
  /-- `printf` rejects the ordinal and `set -e` stops the script. -/
  | invalidOrdinal
  /-- `exit 1`: the address did not resolve in time. -/
  | dnsTimeout
  /-- `exec /mo-service -cfg ${conf}`, with the config's lines. -/
  | exec (config : List String)
  deriving DecidableEq, Repr

/-- `POD_NAME=${POD_NAME:-$HOSTNAME}`; none when `HOSTNAME` is read and unset. -/
def scriptPodName (rt : PodRuntime) (env : List EnvVar) : Option String :=
  ((rt.var env "POD_NAME").filter (· != "")).or (rt.var env "HOSTNAME")

/-- `ADDR="${POD_NAME}.${HEADLESS_SERVICE_NAME}.${NAMESPACE}.svc"`. -/
def podAddress (podName headlessSvcName «namespace» : String) : String :=
  podName ++ "." ++ headlessSvcName ++ "." ++ «namespace» ++ ".svc"

/-- `ADDR` and `UUID`, or how the script stops before them. -/
def scriptIdentity (rt : PodRuntime) (env : List EnvVar) : Except ScriptExit (String × String) :=
  match scriptPodName rt env, rt.var env "HEADLESS_SERVICE_NAME", rt.var env "NAMESPACE" with
  | some podName, some svc, some ns =>
    let address := podAddress podName svc ns
    if (rt.var env "HOSTNAME_UUID").isSome then .ok (address, rt.addressUUID address)
    else match ordinalUUID rt.pathnames podName with
      | some uuid => .ok (address, uuid)
      | none => .error .invalidOrdinal
  | _, _, _ => .error .unsetVariable

section
variable (ext : Externals)

end

/-- A runtime whose kubelet resolves `POD_NAME` to the `i`-th pod's name and every other
entry to its value. -/
def ordinalRuntime (setName : String) (i : Nat) : PodRuntime where
  resolve e := if e.name = "POD_NAME" then podName setName i else e.value
  baseEnv _ := none
  pathnames _ := []
  addressUUID := id
  resolvable _ := true

end MatrixOneOperator
