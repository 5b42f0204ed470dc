/-!
What the operating system and the runtime refuse, in their own words.
-/

namespace Instrument

/-- A refusal of the operating system, of the checks right before it is asked, or of the runtime. -/
inductive SystemError where
  | notFound
  | alreadyExists
  | notADirectory
  | isADirectory
  | brokenPipe
  | nameTooLong
  | addressInUse
  | addressNotAvailable
  | networkUnreachable
  /-- A file that should be text holds bytes that are none. -/
  | notText
  /-- A path holds the character that ends paths. -/
  | nulInPath
  /-- A path is too long for a socket. -/
  | socketPathTooLong
  | windowSize (size : Nat)
  | invalidAddress
  | invalidPort
  /-- Nobody tells the address of a host. -/
  | unknownHost
  /-- Bytes are asked for that a list does not have: whoever asks is stopped, and tells nobody. -/
  | outOfRange (start stop length : Nat)
deriving DecidableEq, Repr

/-- The refusal in words. -/
def SystemError.message : SystemError → String
  | notFound => "No such file or directory (os error 2)"
  | alreadyExists => "File exists (os error 17)"
  | notADirectory => "Not a directory (os error 20)"
  | isADirectory => "Is a directory (os error 21)"
  | brokenPipe => "Broken pipe (os error 32)"
  | nameTooLong => "File name too long (os error 36)"
  | addressInUse => "Address already in use (os error 98)"
  | addressNotAvailable => "Cannot assign requested address (os error 99)"
  | networkUnreachable => "Network is unreachable (os error 101)"
  | notText => "stream did not contain valid UTF-8"
  | nulInPath => "file name contained an unexpected NUL byte"
  | socketPathTooLong => "path must be shorter than SUN_LEN"
  | windowSize size =>
    "register window size " ++ toString size ++ " is not a multiple of 4"
  | invalidAddress => "invalid socket address"
  | invalidPort => "invalid port value"
  | unknownHost =>
    "failed to lookup address information: Temporary failure in name resolution"
  | outOfRange start stop length =>
    "bytes " ++ toString start ++ " to " ++ toString stop ++ " of " ++ toString length

end Instrument
