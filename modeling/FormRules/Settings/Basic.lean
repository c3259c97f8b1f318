import FormRules.Log

namespace FormRules

structure Settings where
  appName : String := "Rule String Input Validator"
  appVersion : String := "1.0.0"
  debug : Bool := false
  logLevel : Log.Level := .info
  logFile : Option String := none
  messagesPath : Option String := none
  dateFormat : String := "YYYY-MM-DD"
  deriving DecidableEq, Repr

end FormRules
