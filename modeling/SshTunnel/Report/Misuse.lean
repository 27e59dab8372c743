import SshTunnel.Misfit

/-!
# Misuse

Arguments that no caller may pass. Each is refused with the value that was given as messages
show it, for what could not be done with it, or because of its name.
-/

namespace SshTunnel

/-- A broken rule of the interface, with the text of what was given. A value that cannot be
written in the message is refused for that. -/
inductive Misuse where
  | contextPort (given : Text)
  | extraNames (names : List Text)
  | blankMessage (given : Text)
  | unknownField (given : Text)
  | blankKeyPath (given : Text)
  | declaredPort (given : Text)
  | noUser
  | noSigner
  | timeout (given : Text)
  | logLimit (given : Text)
  | unfit (m : Misfit)
  | unwritable (e : Text.Numeral.TooLong)
  | unknownArgument (owner name : Text)
  | missingArguments (owner : Text) (names : List Text)

namespace Misuse

/-- The rule is broken by a value, which the message shows in this way. -/
def of (rule : Text → Misuse) : Except Text.Numeral.TooLong Text → Misuse
  | .ok given => rule given
  | .error e => unwritable e

/-- The message for a broken rule. -/
def message : Misuse → Text
  | contextPort given => "Port must be between 1 and 65535, got ".toList ++ given
  | extraNames names =>
      "Extra keys collision with dataclass field names: ".toList ++ ['\x7b']
        ++ Text.join ", ".toList (names.map Text.quoted) ++ ['\x7d']
        ++ ". Use distinct key names in extra.".toList
  | blankMessage given => "TunnelError message must be a non-empty string, got ".toList ++ given
  | unknownField given => "Unknown required field ".toList ++ given
  | blankKeyPath given => "key_path must be None or a non-empty string, got ".toList ++ given
  | declaredPort given => "port must be a non-negative int, got ".toList ++ given
  | noUser => "username required".toList
  | noSigner => "at least one signer required".toList
  | timeout given => "connect_timeout must be positive, got ".toList ++ given
  | logLimit given => "max_bytes must be positive, got ".toList ++ given
  | unfit m => m.message
  | unwritable e => e.message
  | unknownArgument owner name =>
      owner ++ ".__init__() got an unexpected keyword argument '".toList ++ name ++ ['\'']
  | missingArguments owner names =>
      owner ++ ".__init__() missing ".toList ++ Text.ofNat names.length
        ++ " required positional argument".toList ++ (if names.length = 1 then [] else ['s'])
        ++ ": ".toList ++ Text.listed (names.map Text.quoted)

end Misuse

end SshTunnel
