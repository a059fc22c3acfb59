import ButtonRelay.Delivery

/-!
Module configuration: a trigger character and a delivery mode, read from string keys. The key
`button` must be present and non-empty, and its first character is the trigger; the optional
key `delivery` must read as a mode. Other keys are ignored and keys match exactly.
-/

namespace ButtonRelay

/-- What a module is started with. -/
structure Config where
  trigger : Char
  delivery : Delivery
  deriving DecidableEq, Repr, Inhabited

/-- Why a configuration was refused. -/
inductive ConfigFault where
  | missingButton
  | emptyButton
  | unknownDelivery (normalized : String)
  | invalidToml (report : String)
  deriving DecidableEq, Repr

/-- The text of a refused configuration. -/
def ConfigFault.message : ConfigFault → String
  | .missingButton => "Missing value for key 'button'"
  | .emptyButton => "Empty value for key 'button'"
  | .unknownDelivery v => "Unknown delivery mode '" ++ v ++ "', expected 'queue' or 'callback'"
  | .invalidToml report => "Invalid TOML: " ++ report

/-- Reads a configuration from a key lookup: the button first, then the delivery mode. -/
def Config.ofLookup (get : String → Option String) : Except ConfigFault Config :=
  match get "button" with
  | none => .error .missingButton
  | some button =>
    match button.toList with
    | [] => .error .emptyButton
    | trigger :: _ =>
      match get "delivery" with
      | none => .ok ⟨trigger, .queue⟩
      | some text =>
        match Delivery.parse text with
        | .ok mode => .ok ⟨trigger, mode⟩
        | .error normalized => .error (.unknownDelivery normalized)

/-- Reads a configuration from key-value pairs; the first pair with a key counts. -/
def Config.ofPairs (pairs : List (String × String)) : Except ConfigFault Config :=
  Config.ofLookup (fun key => List.lookup key pairs)

theorem Config.ofLookup_missing {get : String → Option String} (h : get "button" = none) :
    Config.ofLookup get = .error .missingButton := by
  simp [Config.ofLookup, h]

end ButtonRelay
