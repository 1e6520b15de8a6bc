import InjectingProxy.Proofs.Check
import InjectingProxy.Settings

/-!
# Settings of an environment

An environment has settings exactly if each number in it can be read (`Settings.load_eq_ok_iff`).
Each setting is then what its variable says, or a value of its own where the variable is not set
(`Settings.Reflects`); those values can be read, whatever the other variables are.
-/

set_option autoImplicit false

namespace InjectingProxy
namespace Settings

theorem readDecimal_default : readDecimal "5.0" = .ok 5.0 := by
  have hdigits : Decimal.dropUnderscores false
      (Decimal.plainDigits (Text.trim isWhite "5.0".toList)) = some ['5', '.', '0'] := by
    decide +kernel
  have hx : Decimal.plain? ['5', '.', '0'] = some 5.0 := rfl
  rw [readDecimal, Decimal.read?, hdigits, Option.bind_some, hx]

theorem readDecimal_eq_ok_iff {text : String} {x : Float} :
    readDecimal text = .ok x ↔ Decimal.read? text.toList = some x := by
  rw [readDecimal]
  cases Decimal.read? text.toList <;> simp

theorem readWhole_eq_ok_iff {text : String} {n : Int} :
    readWhole text = .ok n ↔ Whole.read text.toList = .ok n :=
  mapError_eq_ok

theorem readWhole_of_toOption {text : String} {n : Int}
    (h : (Whole.read text.toList).toOption = some n) : readWhole text = .ok n :=
  readWhole_eq_ok_iff.2 (toOption_eq_some_iff.1 h)

theorem readWhole_port : readWhole "8812" = .ok 8812 := readWhole_of_toOption (by decide +kernel)

theorem readWhole_code : readWhole "503" = .ok 503 := readWhole_of_toOption (by decide +kernel)

theorem readWhole_modulus : readWhole "10" = .ok 10 := readWhole_of_toOption (by decide +kernel)

variable {env : Environment}

theorem valueOr_of_unset {name : String} (h : env.lookup name = none) (other : String) :
    valueOr env name other = other := by
  rw [valueOr, h]
  rfl

theorem valueOr_of_set {name text : String} (h : env.lookup name = some text) (other : String) :
    valueOr env name other = text := by
  rw [valueOr, h]
  rfl

/-- **An environment has settings exactly if each number in it can be read.** -/
theorem load_eq_ok_iff {s : Settings} : load env = .ok s ↔
    readWhole (valueOr env "PROXY_PORT" "8812") = .ok s.proxyPort ∧
    readDecimal (valueOr env "BACKEND_TIMEOUT" "5.0") = .ok s.backendTimeout ∧
    readWhole (valueOr env "PROXY_ERROR_CODE" "503") = .ok s.errorCode ∧
    readWhole (valueOr env "PROXY_ERROR_MOD" "10") = .ok s.errorMod ∧
    readPort? (env.lookup "METRICS_PORT") = .ok s.metricsPort ∧
    s.proxyHost = valueOr env "PROXY_HOST" "0.0.0.0" ∧
    s.backendScheme = valueOr env "BACKEND_SCHEME" "https" ∧
    s.backendHost = env.lookup "BACKEND_HOST" := by
  rw [load]
  constructor
  · intro h
    obtain ⟨port, hport, h⟩ := bind_eq_ok.1 h
    obtain ⟨timeout, htimeout, h⟩ := bind_eq_ok.1 h
    obtain ⟨code, hcode, h⟩ := bind_eq_ok.1 h
    obtain ⟨modulus, hmod, h⟩ := bind_eq_ok.1 h
    obtain ⟨metrics, hmetrics, h⟩ := bind_eq_ok.1 h
    cases h
    exact ⟨hport, htimeout, hcode, hmod, hmetrics, rfl, rfl, rfl⟩
  · rintro ⟨hport, htimeout, hcode, hmod, hmetrics, hhost, hscheme, hbackend⟩
    obtain ⟨⟩ := s
    cases hhost
    cases hscheme
    cases hbackend
    rw [hport, htimeout, hcode, hmod, hmetrics]
    rfl

/-- **An environment that says nothing of numbers has settings.** -/
theorem load_of_unset (env : Environment) (hport : env.lookup "PROXY_PORT" = none)
    (htimeout : env.lookup "BACKEND_TIMEOUT" = none)
    (hcode : env.lookup "PROXY_ERROR_CODE" = none) (hmod : env.lookup "PROXY_ERROR_MOD" = none)
    (hmetrics : env.lookup "METRICS_PORT" = none) :
    ∃ timeout, load env = .ok {
      proxyHost := valueOr env "PROXY_HOST" "0.0.0.0"
      proxyPort := 8812
      backendScheme := valueOr env "BACKEND_SCHEME" "https"
      backendHost := env.lookup "BACKEND_HOST"
      backendTimeout := timeout
      errorCode := 503
      errorMod := 10
      metricsPort := none } := by
  refine ⟨5.0, load_eq_ok_iff.2 ?_⟩
  rw [valueOr_of_unset hport, valueOr_of_unset htimeout, valueOr_of_unset hcode,
    valueOr_of_unset hmod, hmetrics]
  exact ⟨readWhole_port, readDecimal_default, readWhole_code, readWhole_modulus, rfl, rfl, rfl, rfl⟩

/-! ## What a variable sets -/

/-- The value is the one that the variable is read as, or another one if it is not set. -/
def IsSetBy {α : Type} (env : Environment) (name : String) (other : α)
    (reads : String → α → Prop) (x : α) : Prop :=
  (env.lookup name = none ∧ x = other) ∨ ∃ text, env.lookup name = some text ∧ reads text x

/-- A variable that is not set is read as the text of its other value. -/
theorem isSetBy_of_valueOr {α : Type} {name text : String} {other x : α}
    (read : String → Except Fault α) {reads : String → α → Prop} (hother : read text = .ok other)
    (hreads : ∀ t, read t = .ok x → reads t x) (h : read (valueOr env name text) = .ok x) :
    IsSetBy env name other reads x := by
  cases hset : env.lookup name with
  | none =>
    rw [valueOr_of_unset hset] at h
    exact .inl ⟨hset, Except.ok.inj (h.symm.trans hother)⟩
  | some t =>
    rw [valueOr_of_set hset] at h
    exact .inr ⟨t, hset, hreads t h⟩

/-- The settings are what the variables say. -/
structure Reflects (env : Environment) (s : Settings) : Prop where
  proxyHost : IsSetBy env "PROXY_HOST" "0.0.0.0" Eq s.proxyHost
  proxyPort : IsSetBy env "PROXY_PORT" 8812 (Whole.read ·.toList = .ok ·) s.proxyPort
  backendScheme : IsSetBy env "BACKEND_SCHEME" "https" Eq s.backendScheme
  backendHost : s.backendHost = env.lookup "BACKEND_HOST"
  backendTimeout :
    IsSetBy env "BACKEND_TIMEOUT" 5.0 (Decimal.read? ·.toList = some ·) s.backendTimeout
  errorCode : IsSetBy env "PROXY_ERROR_CODE" 503 (Whole.read ·.toList = .ok ·) s.errorCode
  errorMod : IsSetBy env "PROXY_ERROR_MOD" 10 (Whole.read ·.toList = .ok ·) s.errorMod
  metricsPort : readPort? (env.lookup "METRICS_PORT") = .ok s.metricsPort

theorem reflects_of_load {s : Settings} (h : load env = .ok s) : Reflects env s := by
  obtain ⟨hport, htimeout, hcode, hmod, hmetrics, hhost, hscheme, hbackend⟩ := load_eq_ok_iff.1 h
  exact {
    proxyHost := isSetBy_of_valueOr .ok rfl (fun _ ↦ Except.ok.inj)
      (congrArg Except.ok hhost.symm)
    proxyPort := isSetBy_of_valueOr readWhole readWhole_port (fun _ ↦ readWhole_eq_ok_iff.1) hport
    backendScheme := isSetBy_of_valueOr .ok rfl (fun _ ↦ Except.ok.inj)
      (congrArg Except.ok hscheme.symm)
    backendHost := hbackend
    backendTimeout := isSetBy_of_valueOr readDecimal readDecimal_default
      (fun _ ↦ readDecimal_eq_ok_iff.1) htimeout
    errorCode := isSetBy_of_valueOr readWhole readWhole_code (fun _ ↦ readWhole_eq_ok_iff.1) hcode
    errorMod := isSetBy_of_valueOr readWhole readWhole_modulus (fun _ ↦ readWhole_eq_ok_iff.1) hmod
    metricsPort := hmetrics }

end Settings
end InjectingProxy
