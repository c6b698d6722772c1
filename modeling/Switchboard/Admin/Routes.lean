/-
Administration of routes.
-/
import Switchboard.Admin.Edit

namespace Switchboard

namespace Admin

/-- A route as it is shown, with its cluster in place of the cluster's name if `recursive`. -/
def viewRoute (s : Snapshot) (clusters : ClusterPool) (time : Nat) (recursive : Bool)
    (route : Route) : Json :=
  match if recursive then some route.destination else none with
  | some (.registered name) =>
    match s.cluster? name with
    | some id => Path.set route.view "/destination" (clusters.view time id)
    | none => route.view
  | _ => route.view

def listRoutes (r : Registry) (time : Nat) (recursive : Bool) : List Json :=
  (Table.values r.current.routes).map (viewRoute r.current r.clusters time recursive)

def getRoute (r : Registry) (time : Nat) (name : String) (recursive : Bool) : Except Fault Json :=
  match r.current.route? name with
  | some route => .ok (viewRoute r.current r.clusters time recursive route)
  | none => .error (.notFound .route name)

/-- Builds a route from a definition, checks it and stores it. -/
def buildRoute (strict : Bool) (name : String) (d : RouteDefinition) : Edit Json := fun s res =>
  let (route, res) := res.buildRoute name d
  match checkRoute strict s route with
  | .error f => (.error f, res)
  | .ok _ => (.ok (route.view, s.putRoute route), res)

/-- Adds a route. -/
def addRoute (strict : Bool) (v : Json) : Edit Json := fun s res =>
  match decodeAs .route RouteDefinition.decode v with
  | .error f => (.error f, res)
  | .ok d =>
    match chooseName .route .route s.routes d.name res with
    | (.error f, res) => (.error f, res)
    | (.ok name, res) => buildRoute strict name d s res

/-- Stores a route in the place of another one. -/
def storeRoute (strict : Bool) (name : String) (d : RouteDefinition) : Edit Json := fun s res =>
  match checkName .route name d.name with
  | .error f => (.error f, res)
  | .ok _ =>
    match s.route? name with
    | none => (.error (.notFound .route name), res)
    | some _ => buildRoute strict name d s res

/-- Replaces a route. Sessions keep the route that they are bound to. -/
def updateRoute (strict : Bool) (name : String) (v : Json) : Edit Json := fun s res =>
  match decodeAs .route RouteDefinition.decode v with
  | .error f => (.error f, res)
  | .ok d => storeRoute strict name d s res

def deleteRoute (name : String) : Edit Json := fun s res =>
  match s.route? name with
  | none => (.error (.notFound .route name), res)
  | some route => (.ok (route.view, s.dropRoute name), res)

end Admin

end Switchboard
