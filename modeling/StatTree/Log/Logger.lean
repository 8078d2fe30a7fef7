import StatTree.Config.Environment
import StatTree.Log.Filter

namespace StatTree

structure Logger where
  isJson : Bool
  filter : LogFilter
deriving DecidableEq, Repr

namespace Environment

def runName (environment : Environment) : String :=
  ((environment .environment).or (environment .commonEnvironment)).getD "development"

def logLevel (environment : Environment) : LogLevel :=
  if environment.runName = "production" then .info else .debug

def logFilter (environment : Environment) : LogFilter :=
  ((environment .logFilter).bind LogFilter.parse?).getD (.upTo environment.logLevel)

def logger (environment : Environment) : Logger :=
  { isJson := (environment .logFormat).any (·.toLower == "json")
    filter := environment.logFilter }

end Environment

end StatTree
