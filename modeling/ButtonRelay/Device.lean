/-!
Devices. A device is known by its type number, its role and its name; two devices are the
same device when all three agree. Role and name are limited to 32 UTF-8 bytes, the role is
checked first, and a device is shown as `role/name`.
-/

namespace ButtonRelay

/-- The identification of an attached device. -/
structure Device where
  kind : Int32
  role : String
  name : String
  deriving DecidableEq, Repr, Inhabited

/-- The longest role or name, in UTF-8 bytes. -/
def Device.maxLength : Nat := 32

/-- Why an identification was refused. -/
inductive IdentityFault where
  | roleTooLong (bytes : Nat)
  | nameTooLong (bytes : Nat)
  deriving DecidableEq, Repr

/-- The text of a refused identification. -/
def IdentityFault.message : IdentityFault → String
  | .roleTooLong n => "Device role must be at most 32 bytes, got " ++ toString n
  | .nameTooLong n => "Device name must be at most 32 bytes, got " ++ toString n

/-- Checks the lengths of role and name, role first. -/
def Device.make (kind : Int32) (role name : String) : Except IdentityFault Device :=
  if Device.maxLength < role.utf8ByteSize then .error (.roleTooLong role.utf8ByteSize)
  else if Device.maxLength < name.utf8ByteSize then .error (.nameTooLong name.utf8ByteSize)
  else .ok ⟨kind, role, name⟩

/-- The device as `role/name`. -/
def Device.display (d : Device) : String := d.role ++ "/" ++ d.name

/-- Why the host reports a device as gone. -/
inductive DisconnectReason where
  | announced
  | timeout
  | error
  deriving DecidableEq, Repr, Inhabited

/-- The reason in lower case. -/
def DisconnectReason.display : DisconnectReason → String
  | .announced => "announced"
  | .timeout => "timeout"
  | .error => "error"

theorem Device.make_ok {kind : Int32} {role name : String} (hr : role.utf8ByteSize ≤ 32)
    (hn : name.utf8ByteSize ≤ 32) : Device.make kind role name = .ok ⟨kind, role, name⟩ := by
  have hr' : ¬ Device.maxLength < role.utf8ByteSize := by simp only [Device.maxLength]; omega
  have hn' : ¬ Device.maxLength < name.utf8ByteSize := by simp only [Device.maxLength]; omega
  simp only [Device.make, hr', hn', if_false]

end ButtonRelay
