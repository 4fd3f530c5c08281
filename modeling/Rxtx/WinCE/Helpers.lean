import Mathlib.Data.List.Basic

namespace Rxtx.WinCE

def unsupportedCommOperation : String := "javax/comm/UnsupportedCommOperationException"
def arrayIndexOutOfBounds : String := "java/lang/ArrayIndexOutOfBoundsException"
def ioException : String := "java/io/IOException"
def portInUseException : String := "javax/comm/PortInUseException"

/-- An exception that is thrown when the native method returns. -/
structure Pending where
  exc : String
  text : String
  deriving DecidableEq, Repr

/-- Where the class is not found, the exception of that is cleared, and nothing is thrown
    (`rxtxHelpers.cpp`). -/
def throwJavaExceptionW (findClass : String → Bool) (exc foo msg : String) : Option Pending :=
  if findClass exc then some ⟨exc, exc ++ ": " ++ msg ++ " in " ++ foo⟩ else none

def getJavaIntVar (field : Option Int32) : Int32 := field.getD 0

end Rxtx.WinCE
