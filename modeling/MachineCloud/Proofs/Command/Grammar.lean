import MachineCloud.Command.Arguments
import MachineCloud.Proofs.Entries

/-!
# Argument lists with a switch before them

What an argument list gives is put together from values that are added under keys, so that reading it
from two beginnings gives two ends that are related if the beginnings are, whatever relation each
single addition respects (`consume_alike`).  The relation that is of use here is that one end has, in
addition, a first name of an environment file: that is what the switch for it does before an argument
list (`Arguments.parse_envFile`).
-/

namespace MachineCloud.Command

/-! ## Related results -/

/-- Results are alike if they are the same fault, or else give something related. -/
inductive Alike {ε α β : Type} (R : α → β → Prop) : Except ε α → Except ε β → Prop
  | ok {a : α} {b : β} (h : R a b) : Alike R (.ok a) (.ok b)
  | error (e : ε) : Alike R (.error e) (.error e)

section

variable {ε α β γ δ : Type} {R : α → β → Prop} {S : γ → δ → Prop} {x : Except ε α} {y : Except ε β}

/-- What goes on alike from alike results is alike. -/
theorem Alike.bind {k : α → Except ε γ} {l : β → Except ε δ} (h : Alike R x y)
    (hk : ∀ a b, R a b → Alike S (k a) (l b)) : Alike S (x >>= k) (y >>= l) := by
  cases h with
  | ok hab => exact hk _ _ hab
  | error e => exact .error e

/-- A result goes on alike if what follows does. -/
theorem Alike.after (x : Except ε α) {k : α → Except ε γ} {l : α → Except ε δ}
    (hk : ∀ a, Alike S (k a) (l a)) : Alike S (x >>= k) (x >>= l) := by
  cases x with
  | ok a => exact hk a
  | error e => exact .error e

end

namespace Found

/-- Whether a relation holds on whatever is added on both sides. -/
structure Respects (R : Found → Found → Prop) : Prop where
  add : ∀ {f f'} (key : String) (v : Value), R f f' → R (f.add key v) (f'.add key v)
  mark : ∀ {f f'} (key : String), R f f' → R (f.mark key) (f'.mark key)
  addExtras : ∀ {f f'} (extras : List String), R f f' → R (f.addExtras extras) (f'.addExtras extras)

end Found

/-! ## Consuming arguments -/

namespace Grammar

open Found (Respects)

variable {R : Found → Found → Prop} {f f' : Found} (g : Grammar)

theorem alike_stopOf {x y : Except UsageFault Found} (h : Alike R x y) :
    Alike R (g.stopOf x) (g.stopOf y) := by
  cases h with
  | ok h => exact .ok h
  | error fault => exact .error _

theorem take_alike (hR : Respects R) (s : Switch) (value : String) (h : R f f') :
    Alike R (take s value f) (take s value f') := by
  rw [take, take]
  split
  · exact .ok (hR.add _ _ h)
  · split
    · exact .ok (hR.add _ _ h)
    · exact .error _

theorem act_alike (hR : Respects R) (s : Switch) (value? : Option String) (h : R f f') :
    Alike R (g.act s value? f) (g.act s value? f') := by
  unfold act
  split
  · exact .error _
  · exact g.alike_stopOf (take_alike hR s _ h)
  · exact .ok (hR.mark _ h)

theorem actAll_alike (hR : Respects R) (k : Cluster) (value? : Option String) (h : R f f') :
    Alike R (g.actAll k value? f) (g.actAll k value? f') := by
  have hbefore (switches : List Switch) (f f' : Found) (h : R f f') :
      Alike R (switches.foldlM (fun f s => g.act s none f) f)
        (switches.foldlM (fun f s => g.act s none f) f') := by
    induction switches generalizing f f' with
    | nil => exact .ok h
    | cons s rest ih =>
      rw [List.foldlM_cons, List.foldlM_cons]
      exact (g.act_alike hR s none h).bind ih
  exact (hbefore k.before f f' h).bind fun _ _ h => g.act_alike hR k.last value? h

theorem fill_respects (hR : Respects R) (slot : Slot) (arguments : List String) (h : R f f') :
    R (fill slot arguments f) (fill slot arguments f') := by
  unfold fill
  split
  · next key =>
    induction arguments generalizing f f' with
    | nil => exact h
    | cons s rest ih => exact ih (hR.add key (.str s) h)
  · split
    · exact h
    · exact hR.add _ _ h

/-- The next argument of a switch is one of those that follow. -/
theorem length_valueOf {k : Cluster} {rest left : List (Token × String)} {value? : Option String}
    (h : valueOf k rest = .ok (value?, left)) : left.length ≤ rest.length := by
  unfold valueOf at h
  split at h <;> cases h
  · exact Nat.le_succ _
  · exact Nat.le_refl _

/-- What is no switch is plain, or the end of switches. -/
theorem eq_of_isSwitch_eq_false {t : Token} (h : t.isSwitch = false) :
    t = .dashes ∨ ∃ text, t = .plain text := by
  cases t with
  | dashes => exact .inl rfl
  | plain text => exact .inr ⟨text, rfl⟩
  | unknown text => cases h
  | switch s name value? => cases h

/-- Arguments that are no switches go into the slot, or else fit nothing. -/
theorem consume_plain (hR : Respects R) (slot? : Option Slot) {t : Token}
    (ht : t.isSwitch = false) (s : String) (rest : List (Token × String)) :
    ∃ (slot' : Option Slot) (rest' : List (Token × String)) (step : Found → Found),
      rest'.length ≤ rest.length ∧ (∀ f f', R f f' → R (step f) (step f')) ∧
      ∀ fuel f, g.consume (fuel + 1) slot? ((t, s) :: rest) f =
        g.consume fuel slot' rest' (step f) := by
  have hskipped : (((t, s) :: rest).dropWhile fun t => !t.1.isSwitch).length ≤ rest.length := by
    rw [List.dropWhile_cons, ht]
    exact (List.dropWhile_sublist _).length_le
  have hskip (f f' : Found) (h : R f f') :=
    hR.addExtras ((((t, s) :: rest).takeWhile fun t => !t.1.isSwitch).map (·.2)) h
  have hplain := eq_of_isSwitch_eq_false ht
  cases slot? with
  | none =>
    refine ⟨none, _, _, hskipped, hskip, fun fuel f => ?_⟩
    rcases hplain with rfl | ⟨text, rfl⟩ <;> rfl
  | some slot =>
    cases hcount : slotCount slot ((t, s) :: rest) with
    | zero =>
      refine ⟨some slot, _, _, hskipped, hskip, fun fuel f => ?_⟩
      rcases hplain with rfl | ⟨text, rfl⟩ <;> simp only [consume, hcount]
    | succ n =>
      have hfilled : (((t, s) :: rest).drop (n + 1)).length ≤ rest.length := by
        rw [List.drop_succ_cons]
        exact (List.drop_sublist _ _).length_le
      have hfill (f f' : Found) (h : R f f') :=
        fill_respects hR slot ((((t, s) :: rest).take (n + 1)).map (·.2)) h
      refine ⟨none, _, _, hfilled, hfill, fun fuel f => ?_⟩
      rcases hplain with rfl | ⟨text, rfl⟩ <;> simp only [consume, hcount]

/-- Related beginnings come to related ends, however much more fuel there is than arguments. -/
theorem consume_alike (hR : Respects R) {fuel fuel' : Nat} (slot? : Option Slot)
    {ts : List (Token × String)} (hfuel : ts.length < fuel) (hfuel' : ts.length < fuel')
    (h : R f f') : Alike R (g.consume fuel slot? ts f) (g.consume fuel' slot? ts f') := by
  -- Each step takes an argument at least, so that both fuels outlast the list.
  induction fuel generalizing fuel' slot? ts f f' with
  | zero => cases hfuel
  | succ fuel ih =>
    cases fuel' with
    | zero => cases hfuel'
    | succ fuel' =>
      cases ts with
      | nil => exact .ok h
      | cons t rest =>
        rw [List.length_cons] at hfuel hfuel'
        obtain ⟨t, s⟩ := t
        have hplain (hswitch : t.isSwitch = false) : Alike R
            (g.consume (fuel + 1) slot? ((t, s) :: rest) f)
            (g.consume (fuel' + 1) slot? ((t, s) :: rest) f') := by
          obtain ⟨slot', rest', step, hlength, hstep, hconsume⟩ :=
            g.consume_plain hR slot? hswitch s rest
          rw [hconsume, hconsume]
          exact ih slot' (by omega) (by omega) (hstep f f' h)
        cases t with
        | dashes => exact hplain rfl
        | plain text => exact hplain rfl
        | unknown text =>
          exact ih slot? (by omega) (by omega) (hR.addExtras [s] h)
        | switch option name value? =>
          refine .after (g.stopOf (g.spread option name value?)) fun k => ?_
          cases hvalue : valueOf k rest with
          | error fault => exact .error _
          | ok taken =>
            have hlength := length_valueOf hvalue
            refine (g.actAll_alike hR k taken.1 h).bind fun f f' h => ?_
            exact ih slot? (by omega) (by omega) h

end Grammar

/-! ## The switch for an environment file -/

namespace Found

variable {name : String} {f f' : Found}

/-- Whether one end is another one with a first name of an environment file in addition. -/
structure NamedBefore (name : String) (f f' : Found) : Prop where
  extras : f'.extras = f.extras
  named : f'.values.get? "env_file" = some (.str name :: (f.values.get? "env_file").getD [])
  others : ∀ key, key ≠ "env_file" → f'.values.get? key = f.values.get? key

theorem NamedBefore.append (h : NamedBefore name f f') (key : String) (more : List Value) :
    NamedBefore name { f with values := f.values.put key ((f.values.get? key).getD [] ++ more) }
      { f' with values := f'.values.put key ((f'.values.get? key).getD [] ++ more) } := by
  refine ⟨h.extras, ?_, fun other hother => ?_⟩
  · simp only [Entries.get?_put]
    by_cases hkey : key = "env_file"
    · subst hkey
      simp [h.named]
    · rw [if_neg hkey, if_neg hkey, h.named]
  · simp only [Entries.get?_put]
    split
    · next hkey => rw [hkey, h.others other hother]
    · exact h.others other hother

theorem respects_namedBefore (name : String) : Respects (NamedBefore name) where
  add key v h := h.append key [v]
  mark key h := by
    have happend := h.append key []
    simp only [List.append_nil] at happend
    exact happend
  addExtras extras h := ⟨congrArg (· ++ extras) h.extras, h.named, h.others⟩

theorem NamedBefore.has (h : NamedBefore name f f') (key : String) (hkey : key ≠ "env_file") :
    f'.has key = f.has key := congrArg Option.isSome (h.others key hkey)

theorem NamedBefore.last (h : NamedBefore name f f') (key : String) (hkey : key ≠ "env_file") :
    f'.last key = f.last key := by
  rw [Found.last, h.others key hkey, Found.last]

end Found

namespace Arguments

open Found (NamedBefore respects_namedBefore)

variable {name : String} {arguments : List String}

/-- The command is all that must be there. -/
theorem missing_mainGrammar (f : Found) :
    mainGrammar.missing f = if f.has "command" then [] else ["command"] := by
  cases hcommand : f.has "command" <;> simp [Grammar.missing, mainGrammar, helpSwitch, hcommand,
    Slot.isRequired, Slot.key]

/-- The switch for an environment file. -/
def envFileSwitch : Switch := { names := ["--env-file", "-e"], key := "env_file" }

/-- The switch and the name after it are told apart before the rest. -/
theorem tokens_envFile (hname : mainGrammar.token name = .ok (.plain name)) (hdashes : name ≠ "--") :
    mainGrammar.tokens ("--env-file" :: name :: arguments) =
      (mainGrammar.tokens arguments).map fun ts =>
        (.switch envFileSwitch "--env-file" none, "--env-file") :: (.plain name, name) :: ts := by
  have hswitch : mainGrammar.token "--env-file" =
      .ok (.switch envFileSwitch "--env-file" none) := rfl
  rw [Grammar.tokens, hswitch, Grammar.tokens, hname]
  · cases mainGrammar.tokens arguments <;> rfl
  · exact hdashes
  · decide

/-- They are consumed before the rest, and add the name. -/
theorem consume_envFile (hdashes : name ≠ "--") (fuel : Nat) (slot? : Option Slot)
    (ts : List (Token × String)) (f : Found) :
    mainGrammar.consume (fuel + 1) slot?
        ((.switch envFileSwitch "--env-file" none, "--env-file") :: (.plain name, name) :: ts) f =
      mainGrammar.consume fuel slot? ts (f.add "env_file" (.str name)) := by
  have htake : Grammar.take envFileSwitch name f = .ok (f.add "env_file" (.str name)) := by
    rw [Grammar.take, if_neg hdashes]
    rfl
  change mainGrammar.stopOf (Grammar.take envFileSwitch name f) >>= _ = _
  rw [htake]
  rfl

/-- Before an argument list, the switch adds its name and nothing else. -/
theorem parse_mainGrammar_alike (hname : mainGrammar.token name = .ok (.plain name))
    (arguments : List String) :
    Alike (NamedBefore name) (mainGrammar.parse arguments)
      (mainGrammar.parse ("--env-file" :: name :: arguments)) := by
  have hdashes : name ≠ "--" := by
    rintro rfl
    cases hname
  have hstart : NamedBefore name {} (({} : Found).add "env_file" (.str name)) := by
    refine ⟨rfl, rfl, fun key hkey => ?_⟩
    change Entries.get? key (Entries.put "env_file" _ []) = _
    rw [Entries.get?_put, if_neg (Ne.symm hkey)]
  rw [Grammar.parse, Grammar.parse, tokens_envFile hname hdashes]
  cases mainGrammar.tokens arguments with
  | error fault => exact .error _
  | ok ts =>
    have hends := mainGrammar.consume_alike (respects_namedBefore name) mainGrammar.slot
      (Nat.lt_succ_self ts.length) (Nat.lt_succ_of_lt (Nat.lt_succ_self ts.length)) hstart
    change Alike _ (mainGrammar.consume (ts.length + 1) mainGrammar.slot ts {} >>= _)
      (mainGrammar.consume (ts.length + 2 + 1) mainGrammar.slot (_ :: _ :: ts) {} >>= _)
    rw [consume_envFile hdashes]
    refine hends.bind fun f f' h => ?_
    simp only [missing_mainGrammar, h.has "command" (by decide)]
    cases f.has "command" with
    | true => exact .ok h
    | false => exact .error _

/-- Whether an argument list names an environment file. -/
def NamesEnvFile (arguments : List String) : Prop :=
  ∃ f, mainGrammar.parse arguments = .ok f ∧ f.has "env_file" = true

/-- Before an argument list that names no environment file, the switch changes nothing but the name
of that file. -/
theorem parse_alike (hname : mainGrammar.token name = .ok (.plain name))
    (hnew : ¬ NamesEnvFile arguments) (environment : Entries String) (defaults : ClusterDefaults) :
    Alike (fun a a' => a.envFile = .null ∧ a' = { a with envFile := .str name })
      (parse environment defaults arguments)
      (parse environment defaults ("--env-file" :: name :: arguments)) := by
  have hmain := parse_mainGrammar_alike hname arguments
  rw [parse, parse]
  generalize hplain : mainGrammar.parse arguments = plain at hmain
  generalize mainGrammar.parse ("--env-file" :: name :: arguments) = prefixed at hmain
  cases hmain with
  | error stop => exact .error _
  | @ok m m' h =>
    have hunnamed : m.values.get? "env_file" = none := by
      rw [← Option.not_isSome_iff_eq_none]
      exact fun hnamed => hnew ⟨m, hplain, hnamed⟩
    have hfirst : m'.last "env_file" = .str name := by
      rw [Found.last, h.named, hunnamed]
      rfl
    have hnull : m.last "env_file" = .null := by
      rw [Found.last, hunnamed]
      rfl
    simp only [bind, Except.bind, h.others "command" (by decide), h.extras,
      h.last "project" (by decide), h.last "region" (by decide),
      h.last "key_file" (by decide), h.last "secret" (by decide),
      h.last "kubeconfig" (by decide), h.last "format" (by decide),
      h.has "mock" (by decide), h.has "format" (by decide),
      h.has "verbose" (by decide), hfirst, hnull]
    split
    · exact .error _
    · split
      · exact .error _
      · split
        · exact .error _
        · exact .ok ⟨rfl, rfl⟩

/-- The variables that stand for arguments. -/
def variableNames : List String :=
  ["STACKIT_PROJECT_ID", "STACKIT_REGION", "STACKIT_SERVICE_ACCOUNT_KEY_PATH"]

/-- Of the environment, only these matter for what arguments mean. -/
theorem parse_congr {environment environment' : Entries String}
    (h : Entries.AgreeOn variableNames environment environment') (defaults : ClusterDefaults)
    (arguments : List String) :
    parse environment defaults arguments = parse environment' defaults arguments := by
  have horVariable (key : String) (hkey : key ∈ variableNames) (v : Value) :
      orVariable environment key v = orVariable environment' key v := by
    cases v <;> simp only [orVariable, h key hkey]
  simp only [parse, horVariable "STACKIT_PROJECT_ID" (by decide),
    horVariable "STACKIT_REGION" (by decide),
    horVariable "STACKIT_SERVICE_ACCOUNT_KEY_PATH" (by decide)]

end Arguments

end MachineCloud.Command
